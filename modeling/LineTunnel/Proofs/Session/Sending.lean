import LineTunnel.Proofs.Connection.Sending
import LineTunnel.Proofs.Session.Turns

/-! What it says that a message was sent. It was if the connection is still open when the session
answers, or if nothing was left to be sent when it went. A connection that goes with the message
unsent has nothing to wait for either, and the answer is the same. -/

namespace LineTunnel.Session

variable {σ : Type} {s : Session (Recorded σ)} {socket : Recorded σ}

theorem tied_of_socket (hs : s.connection.socket = some socket) :
    Run.Tied { connection := s.connection, socket } :=
  fun _ h => Option.some.inj (hs.symm.trans h)

theorem isActive_of_socket (hs : s.connection.socket = some socket) :
    s.connection.isActive = true := by
  unfold Connection.isActive
  rw [hs]
  rfl

theorem isActive_of_isFlushed_eq_false (h : s.isFlushed = false) :
    s.connection.isActive = true := by
  unfold isFlushed Connection.watch at h
  split at h
  · assumption
  · cases h

theorem outbound_of_isFlushed (hactive : s.connection.isActive = true)
    (hconnected : s.connection.phase = .connected) (h : s.isFlushed = true) :
    s.connection.outbound.bytes = [] := by
  unfold isFlushed Connection.watch at h
  rw [if_pos hactive, hconnected] at h
  simp only [Bool.not_or, Bool.and_eq_true, Bool.not_not] at h
  exact List.isEmpty_iff.1 h.2.1

variable [Pollable σ]

def sendMoves (message : Bytes) (turns : List (Turn σ)) (s : Session (Recorded σ)) :
    List (Move σ) :=
  let e := s.connection.queue message
  .queue message :: match e.answer with
    | .ok () => flushMoves turns { s with connection := e.after }
    | .error _ => []

theorem mem_sendMoves {message : Bytes} {turns : List (Turn σ)} {m : Move σ}
    (hm : m ∈ s.sendMoves message turns) : m = .queue message ∨ Waits m := by
  unfold sendMoves at hm
  dsimp only at hm
  rcases List.mem_cons.1 hm with rfl | hrest
  · exact .inl rfl
  split at hrest
  · rw [flushMoves_eq] at hrest
    exact .inr (waits_of_mem_awaitMoves turns hrest)
  · cases hrest

/-- The connection while a message is sent, over a socket that keeps its record when it is
closed. -/
def sendRun (socket : Recorded σ) (message : Bytes) (turns : List (Turn σ))
    (s : Session (Recorded σ)) : Run σ :=
  Run.run { connection := s.connection, socket } (s.sendMoves message turns)

theorem send_cases (hs : s.connection.socket = some socket) (message : Bytes)
    (turns : List (Turn σ)) :
    ∃ answer s', s.send message (turns.map Recorded.turn) = (answer, s') ∧
      (s.sendRun socket message turns).connection = s'.connection ∧
      (answer = .ok () ∧ s'.isFlushed = true ∧
          (s.sendRun socket message turns).log.accepted = [message] ∨
        answer ≠ .ok () ∧ s'.connection.isActive = true) := by
  have hactive := isActive_of_socket hs
  have htied := tied_of_socket hs
  unfold send post sendRun sendMoves
  rw [if_pos hactive]
  rcases s.connection.queue_cases message with
    ⟨watcher, outbound, told, -, -, hqueue⟩ | ⟨f, watcher, told, -, hqueue⟩
  · have hqueued : (Run.step { connection := s.connection, socket } (.queue message)).connection =
        { s.connection with watcher, outbound } := by
      change ((Move.queue message).effect s.connection).after = _
      simp only [Move.effect, hqueue]
    have hlog : (Run.step { connection := s.connection, socket } (.queue message)).log =
        [.queued message] := by
      change [] ++ ((Move.queue message).effect s.connection).answer = _
      simp only [Move.effect, hqueue, List.nil_append]
    obtain ⟨events, taken, requests, messages, replies, hc⟩ :=
      Run.change_step htied (.queue message)
    rw [hqueue]
    -- from the queued message on, the wait alone decides how the call ends
    obtain ⟨s', hawait, hrun⟩ := await_flushed? turns
      (s := { s with connection := { s.connection with watcher, outbound } }) hqueued
    have haccepted : (Run.run (Run.step { connection := s.connection, socket } (.queue message))
        (flushMoves turns ⟨s.config, { s.connection with watcher, outbound }⟩)).log.accepted =
        [message] := by
      rw [Run.accepted_run hc.tied fun m hm message' =>
        ne_queue_of_mem_flushMoves message' turns hm, hlog]
      rfl
    refine ⟨if s'.isFlushed then .ok () else .error (.timeout .sending), s', ?_, hrun, ?_⟩
    · unfold flushed? at hawait
      dsimp only [Except.mapError]
      rw [hawait]
      cases s'.isFlushed <;> rfl
    · cases hflushed : s'.isFlushed with
      | true => exact .inl ⟨rfl, rfl, haccepted⟩
      | false => exact .inr ⟨by simp, isActive_of_isFlushed_eq_false hflushed⟩
  · rw [hqueue]
    refine ⟨_, _, rfl, ?_, .inr ⟨by simp, hactive⟩⟩
    change ((Move.queue message).effect s.connection).after = _
    simp only [Move.effect, hqueue]

/-- What it should mean how `send` ends: where it answers that the message was sent, the socket has
accepted it and all that waited before it, and no write has failed; where the connection went with
something unsent, it answers why. -/
structure SendKept (s : Session (Recorded σ)) (socket : Recorded σ) (message : Bytes)
    (turns : List (Turn σ)) : Prop where
  accepted : (s.send message (turns.map Recorded.turn)).1 = .ok () →
    (s.sendRun socket message turns).socket.accepted =
      socket.accepted ++ s.connection.outbound.bytes ++ s.connection.framing.encode message
  emptied : (s.send message (turns.map Recorded.turn)).1 = .ok () →
    (s.send message (turns.map Recorded.turn)).2.connection.outbound.bytes = []
  unharmed : (s.send message (turns.map Recorded.turn)).1 = .ok () →
    (s.sendRun socket message turns).socket.failedWrites = socket.failedWrites
  reported : (s.send message (turns.map Recorded.turn)).2.connection.isActive = false →
    (s.send message (turns.map Recorded.turn)).2.connection.outbound.bytes ≠ [] →
    ∃ f, (s.send message (turns.map Recorded.turn)).2.connection.failure = some f ∧
      (s.send message (turns.map Recorded.turn)).1 = .error (.link f)

theorem SendKept.isActive_or_outbound (hs : s.connection.socket = some socket) {message : Bytes}
    {turns : List (Turn σ)} (h : s.SendKept socket message turns) :
    (s.send message (turns.map Recorded.turn)).2.connection.isActive = true ∨
      (s.send message (turns.map Recorded.turn)).2.connection.outbound.bytes = [] := by
  obtain ⟨answer, s', hsend, -, hcases⟩ := send_cases hs message turns
  have hreported := h.reported
  rw [hsend] at hreported ⊢
  rcases hcases with ⟨hok, -, -⟩ | ⟨-, hactive⟩
  · by_cases hactive : s'.connection.isActive = true
    · exact .inl hactive
    · by_cases hempty : s'.connection.outbound.bytes = []
      · exact .inr hempty
      · -- the connection went with something unsent, and still the answer is that all was sent
        obtain ⟨f, -, herror⟩ := hreported (by simpa using hactive) hempty
        exact nomatch hok.symm.trans herror
  · exact .inl hactive

theorem sendKept_of_isActive_or_outbound (hs : s.connection.socket = some socket)
    (hconnected : s.connection.phase = .connected) (message : Bytes) (turns : List (Turn σ))
    (h : (s.send message (turns.map Recorded.turn)).2.connection.isActive = true ∨
      (s.send message (turns.map Recorded.turn)).2.connection.outbound.bytes = []) :
    s.SendKept socket message turns := by
  have hemits : Run.Emits s.connection.framing
      (socket.accepted ++ s.connection.outbound.bytes)
      { connection := s.connection, socket } :=
    ⟨tied_of_socket hs, rfl, hconnected, (List.append_nil _).symm⟩
  have hend : Run.Emits _ _ (s.sendRun socket message turns) := hemits.run _
  have hunharmed : Run.Unharmed socket.failedWrites (s.sendRun socket message turns) :=
    hemits.unharmed_run (.inl rfl) _
  obtain ⟨answer, s', hsend, hrun, hcases⟩ := send_cases hs message turns
  rw [hsend] at h
  have hempty : answer = .ok () → s'.connection.outbound.bytes = [] := by
    intro hok
    rcases hcases with ⟨-, hflushed, -⟩ | ⟨hno, -⟩
    · rcases h with hactive | hnone
      · exact outbound_of_isFlushed hactive (hrun ▸ hend.connected) hflushed
      · exact hnone
    · exact absurd hok hno
  refine ⟨?accepted, ?emptied, ?unharmed, ?reported⟩
  case accepted =>
    intro hok
    rw [hsend] at hok
    have hsent := hend.sent
    rcases hcases with ⟨-, -, hlog⟩ | ⟨hno, -⟩
    · rwa [hlog, Framing.stream_singleton, hrun, hempty hok, List.append_nil] at hsent
    · exact absurd hok hno
  case emptied =>
    rw [hsend]
    exact hempty
  case unharmed =>
    intro hok
    rw [hsend] at hok
    rcases hunharmed with hsame | ⟨-, hleft⟩
    · exact hsame
    · rw [hrun] at hleft
      exact absurd (hempty hok) hleft
  case reported =>
    rw [hsend]
    intro hclosed hleft
    rcases h with hactive | hnone
    · exact nomatch hclosed.symm.trans hactive
    · exact absurd hnone hleft

/-- The answer means what it should exactly where the connection is still open at the end or has
left nothing unsent. -/
theorem sendKept_iff (hs : s.connection.socket = some socket)
    (hconnected : s.connection.phase = .connected) (message : Bytes) (turns : List (Turn σ)) :
    s.SendKept socket message turns ↔
      (s.send message (turns.map Recorded.turn)).2.connection.isActive = true ∨
        (s.send message (turns.map Recorded.turn)).2.connection.outbound.bytes = [] := by
  constructor
  · intro h
    exact h.isActive_or_outbound hs
  · intro h
    exact sendKept_of_isActive_or_outbound hs hconnected message turns h

def linked : Session (Recorded Link) where
  config := {}
  connection := ((Connection.create ⟨10, some 13⟩ none).adopt { stream := {} }).after

theorem linked_sendKept : linked.SendKept { stream := {} } [97] [id] :=
  (sendKept_iff rfl rfl [97] [id]).2 (.inl (by decide +kernel))

theorem linked_queue : linked.connection.queue (List.replicate 65536 97) =
    ⟨.error (.link .bufferFull), { linked.connection with overflowed := true }, []⟩ :=
  Connection.queue_of_full rfl (by rw [List.length_replicate]; decide)
    (by rw [List.length_replicate]; decide)

/-- After a message was dropped the next attempt to send closes the connection; the message to be
sent stays behind, and the answer is that it was sent. -/
theorem linked_not_sendKept : ¬SendKept
    ⟨{}, (linked.connection.queue (List.replicate 65536 97)).after⟩ { stream := {} } [97] [id] := by
  rw [linked_queue]
  intro h
  obtain ⟨f, -, herror⟩ := h.reported (by decide +kernel) (by decide +kernel)
  have hok : (send [97] ([id].map Recorded.turn)
      (⟨{}, { linked.connection with overflowed := true }⟩ : Session (Recorded Link))).1.isOk =
        true := by decide +kernel
  rw [herror] at hok
  cases hok

end LineTunnel.Session
