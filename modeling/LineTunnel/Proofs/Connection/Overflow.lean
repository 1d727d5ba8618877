import LineTunnel.Proofs.Connection.Failing
import LineTunnel.Proofs.Connection.Filling

/-! A message that does not fit the outbound queue is dropped, and the connection keeps this in
mind. It is acted on where the connection would send: a service call that is told of output closes
the connection as full, and one that is told of input alone reads on as before. -/

namespace LineTunnel

variable {σ : Type}

def Operation.talks : Operation σ → Bool
  | queue _ => true
  | next => true
  | turn _ => true
  | _ => false

namespace Connection

structure Dropped (c : Connection σ) : Prop where
  active : c.isActive = true
  failure : c.failure = none
  connected : c.phase = .connected
  overflowed : c.overflowed = true

/-- A service call reports that a buffer is full, which is kept, and closes the connection. -/
def ClosesFull (e : Effect σ Outcome) : Prop :=
  e.answer.failure = some (.link .bufferFull) ∧ e.after.isActive = false ∧
    e.after.failure = some (.link .bufferFull)

theorem dropped_queue {c : Connection σ} {message : Bytes} {f : Failure}
    (hactive : c.isActive = true) (hf : c.failure = none) (hconnected : c.phase = .connected)
    (h : (c.queue message).answer = .error f) : (c.queue message).after.Dropped := by
  rcases c.queue_cases message with ⟨watcher, outbound, told, -, -, hqueue⟩ |
    ⟨f', watcher, told, -, hqueue⟩
  · rw [hqueue] at h
    cases h
  · rw [hqueue]
    exact ⟨hactive, hf, hconnected, rfl⟩

theorem Ends.closesFull_iff_answer {e : Effect σ Outcome} (h : Ends e) :
    ClosesFull e ↔ e.answer.failure = some (.link .bufferFull) := by
  refine ⟨fun hcloses => hcloses.1, fun hfull => ?_⟩
  cases h with
  | well hnone => exact nomatch hnone.symm.trans hfull
  | failed hf hclosed _ hfailure =>
    cases hf.symm.trans hfull
    exact ⟨hf, hclosed, hfailure⟩

theorem flush_of_dropped [Transport σ] {c : Connection σ} (h : c.Dropped) :
    c.flush = (.error (.link .bufferFull), c) := by
  obtain ⟨s, hs⟩ := Option.isSome_iff_exists.1 h.active
  unfold flush
  rw [hs, h.connected]
  exact if_pos h.overflowed

variable [Transport σ] {c : Connection σ} {ready : Readiness}

namespace Dropped

theorem apply (h : c.Dropped) {op : Operation σ} (hop : op.talks = true) :
    (c.apply op).Dropped := by
  cases op with
  | queue message =>
    rcases c.queue_cases message with ⟨watcher, outbound, told, -, -, hqueue⟩ |
      ⟨f, watcher, told, -, hqueue⟩
    · rw [Connection.apply, hqueue]
      exact { h with }
    · rw [Connection.apply, hqueue]
      exact { h with overflowed := rfl }
  | next =>
    rcases c.next_cases with hnext | ⟨-, body, rest, -, -, hnext⟩
    all_goals
      rw [Connection.apply, hnext]
      exact { h with }
  | turn f => exact { h with active := by simpa [isActive, Connection.apply] using h.active }
  | _ => cases hop

theorem after (h : c.Dropped) {ops : List (Operation σ)} (hops : ∀ op ∈ ops, op.talks = true) :
    (c.after ops).Dropped :=
  after_induction_among (P := Dropped) (fun _ _ hop hc => hc.apply hop) h hops

theorem closesFull_service_iff (h : c.Dropped) (hex : ready.exceptional = false) :
    ClosesFull (c.service ready) ↔ ready.writable = true ∨
      ready.readable = true ∧ c.fill.1 = .error (.link .bufferFull) := by
  obtain ⟨s, hs⟩ := Option.isSome_iff_exists.1 h.active
  rw [(service_ends hs ready).closesFull_iff_answer,
    service_eq_exchange hs h.failure (by rw [h.connected]; rfl) hex, exchange_eq]
  unfold flushIf
  -- the flush is the only place that looks at the drop; without it the read alone can fail
  cases ready.writable with
  | true =>
    rw [if_pos rfl, flush_of_dropped h]
    exact ⟨fun _ => .inl rfl, fun _ => rfl⟩
  | false =>
    rw [if_neg Bool.false_ne_true]
    dsimp only
    cases ready.readable with
    | true =>
      rw [if_pos rfl, receive_of_connected h.connected, answer_finish]
      cases c.fill.1 with
      | ok u => exact ⟨nofun, fun hor => hor.elim nofun fun hand => nomatch hand.2⟩
      | error f => exact ⟨fun hfull => .inr ⟨rfl, by cases hfull; rfl⟩,
          fun hor => hor.elim nofun fun hand => by cases hand.2; rfl⟩
    | false => exact ⟨nofun, fun hor => hor.elim nofun fun hand => nomatch hand.1⟩

end Dropped

/-- After a message was dropped, whatever is queued and taken meanwhile, the next service call
closes the connection as full exactly where it is told of output, or finds its input full. -/
theorem closesFull_iff {message : Bytes} {ops : List (Operation σ)} (hactive : c.isActive = true)
    (hf : c.failure = none) (hconnected : c.phase = .connected)
    (hqueue : (c.queue message).answer = .error (.link .bufferFull))
    (hops : ∀ op ∈ ops, op.talks = true) (hex : ready.exceptional = false) :
    let c' := (c.queue message).after.after ops
    ClosesFull (c'.service ready) ↔ ready.writable = true ∨
      ready.readable = true ∧ c'.fill.1 = .error (.link .bufferFull) :=
  ((dropped_queue hactive hf hconnected hqueue).after hops).closesFull_service_iff hex

def adopted : Connection Script :=
  ((create ⟨10, none⟩ none).adopt { reads := [.data [120, 10]] }).after

theorem adopted_queue : adopted.queue (List.replicate ByteQueue.writeCeiling 97) =
    ⟨.error (.link .bufferFull), { adopted with overflowed := true }, []⟩ :=
  queue_of_full rfl (by rw [List.length_replicate]; decide) (by rw [List.length_replicate]; decide)

theorem closesFull_of_output :
    let message : Bytes := List.replicate ByteQueue.writeCeiling 97
    (adopted.queue message).answer = .error (.link .bufferFull) ∧
      ClosesFull (((adopted.queue message).after.after [.queue [98], .next]).service .writing) := by
  intro message
  have hqueue : (adopted.queue message).answer = .error (.link .bufferFull) := by
    rw [adopted_queue]
  have hops : ∀ op ∈ [Operation.queue [98], .next], (op : Operation Script).talks = true := by
    simp [Operation.talks]
  exact ⟨hqueue, (closesFull_iff rfl rfl rfl hqueue hops rfl).2 (.inl rfl)⟩

/-- The line of the peer is read first, as if nothing had been dropped. -/
theorem not_closesFull_of_input :
    let message : Bytes := List.replicate ByteQueue.writeCeiling 97
    let e := (adopted.queue message).after.service .reading
    (adopted.queue message).answer = .error (.link .bufferFull) ∧
      e.answer = { dataWaiting := true } ∧ e.after.isActive = true ∧ ¬ClosesFull e := by
  intro message e
  have he : e = { adopted with overflowed := true }.service .reading := by
    unfold e
    rw [adopted_queue]
  have hanswer : e.answer = { dataWaiting := true } := by
    rw [he]
    decide +kernel
  refine ⟨by rw [adopted_queue], hanswer, ?_, fun hcloses => ?_⟩
  · rw [he]
    decide +kernel
  · have hfull := hcloses.1
    rw [hanswer] at hfull
    cases hfull

end Connection

end LineTunnel
