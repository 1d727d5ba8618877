import LineTunnel.Proofs.Connection.Failing
import LineTunnel.Proofs.Polling.Places
import LineTunnel.Session

/-! How an attempt to connect ends: the connection stands, or it is gone and the session says why.
A session whose attempt failed sends and receives nothing until it connects again. -/

namespace LineTunnel

variable {σ : Type}

namespace Connection

def Accounted (c : Connection σ) : Prop := c.isActive = false → ∃ f, c.failure = some f

variable {c : Connection σ}

theorem Accounted.submit (h : c.Accounted) (user password : String) :
    (c.submit user password).after.Accounted := by
  rcases c.submit_cases user password with
    ⟨n, frame, watcher, handshake, told, -, -, -, -, -, hsubmit⟩ |
    ⟨f, failure, watcher, told, -, ⟨rfl, -⟩ | ⟨rfl, -⟩, hsubmit⟩
  · rw [hsubmit]
    exact h
  · rw [hsubmit]
    exact h
  · rw [hsubmit]
    exact fun _ => ⟨f, rfl⟩

theorem Accounted.turn (h : c.Accounted) (turn : Turn σ) :
    Accounted { c with socket := c.socket.map turn } :=
  fun hclosed => h (by simpa [isActive] using hclosed)

theorem Accounted.service [Transport σ] (h : c.Accounted) (ready : Readiness) :
    (c.service ready).after.Accounted := by
  cases hactive : c.isActive with
  | false =>
    rw [service_of_inactive hactive]
    exact h
  | true =>
    obtain ⟨s, hs⟩ := Option.isSome_iff_exists.1 hactive
    intro hclosed
    rcases service_ends hs ready with ⟨-, hopen, -⟩ | ⟨-, -, -, hfailure⟩
    · exact nomatch hclosed.symm.trans hopen
    · exact ⟨_, hfailure⟩

theorem Accounted.one [Pollable σ] (h : c.Accounted) : (Polling.one c).after.Accounted := by
  rw [Polling.one_eq]
  cases Polling.ready? c with
  | none => exact h
  | some ready => exact h.service ready

end Connection

namespace Session

inductive Call (σ : Type) where
  | send (message : Bytes) (turns : List (Turn σ))
  | receive (turns : List (Turn σ))
  | close

structure Spent (s : Session σ) : Prop where
  closed : s.connection.isActive = false
  empty : s.connection.next = (none, s.connection)

/-- No socket is open, and no message can be received any more. -/
structure Gone (s : Session σ) : Prop where
  closed : s.connection.isActive = false
  unconnected : s.connection.isConnected = false

variable {s : Session σ}

theorem Gone.spent (h : s.Gone) : s.Spent where
  closed := h.closed
  empty := by
    unfold Connection.next
    rw [if_neg (by simp [h.unconnected])]

theorem gone_close (s : Session σ) : s.close.Gone := by
  obtain ⟨watcher, told, hshutdown⟩ := s.connection.shutdown_eq
  unfold close
  rw [hshutdown]
  exact ⟨rfl, rfl⟩

variable [Pollable σ]

def perform (s : Session σ) : Call σ → Session σ
  | .send message turns => (s.send message turns).2
  | .receive turns => (s.receive turns).2
  | .close => s.close

def after (s : Session σ) (calls : List (Call σ)) : Session σ := calls.foldl perform s

/-- The ways in which an attempt to connect can end, with what follows until the next one. -/
inductive ConnectEnds (answer : Except SessionError Unit) (s : Session σ) : Prop
  | stands : answer = .ok () → s.connection.isConnected = true → ConnectEnds answer s
  | failed {e : SessionError} : answer = .error e →
      (e = .timeout .connecting ∨ ∃ f, e = .link f ∧ s.connection.failure = some f) →
      s.connection.isActive = false → s.connection.isConnected = false →
      (∀ calls message turns, ((s.after calls).send message turns).1 = .error .notConnected) →
      (∀ calls turns, ∃ e, ((s.after calls).receive turns).1 = .error e) → ConnectEnds answer s

theorem accounted_pump (turn : Turn σ) (h : s.connection.Accounted) :
    (s.pump turn).connection.Accounted := by
  unfold pump
  dsimp only
  split
  · exact (h.turn turn).one.submit _ _
  · exact (h.turn turn).one

theorem await_eq {α : Type} {P : Session σ → Prop} (hkept : ∀ turn s, P s → P (s.pump turn))
    (verdict : Session σ → Option (α × Session σ)) (turns : List (Turn σ)) {s : Session σ}
    (h : P s) : ∃ s', P s' ∧ s.await verdict turns =
      ((verdict s').map Prod.fst, ((verdict s').map Prod.snd).getD s') := by
  induction turns generalizing s with
  | nil =>
    refine ⟨s, h, ?_⟩
    unfold await
    cases verdict s <;> rfl
  | cons turn turns ih =>
    cases hverdict : verdict s with
    | some found =>
      refine ⟨s, h, ?_⟩
      unfold await
      rw [hverdict]
      rfl
    | none =>
      obtain ⟨s', hs', hawait⟩ := ih (hkept turn s h)
      refine ⟨s', hs', ?_⟩
      rw [← hawait, await, hverdict]

theorem receive_of_await {s s' : Session σ} {turns : List (Turn σ)}
    (h : s.await received? turns =
      (s'.received?.map Prod.fst, (s'.received?.map Prod.snd).getD s')) :
    (∃ message connection, s'.connection.next = (some message, connection) ∧
      s.receive turns = (.ok (some message), { s' with connection })) ∨
    s'.connection.next = (none, s'.connection) ∧
      (s'.connection.isActive = true ∧ s.receive turns = (.ok none, s') ∨
        s'.connection.isActive = false ∧ s.receive turns = (.error s'.failure, s')) := by
  unfold receive
  rw [h]
  cases hnext : s'.connection.next with
  | mk answer connection =>
    cases answer with
    | some message =>
      refine .inl ⟨message, connection, rfl, ?_⟩
      unfold received?
      rw [hnext]
      rfl
    | none =>
      have hsame : connection = s'.connection := by
        rcases s'.connection.next_cases with hnone | ⟨-, body, rest, -, -, hsome⟩
        · exact congrArg Prod.snd (hnext.symm.trans hnone)
        · cases hnext.symm.trans hsome
      refine .inr ⟨by rw [hsame], ?_⟩
      unfold received?
      rw [hnext]
      cases hactive : s'.connection.isActive with
      | true => exact .inl ⟨rfl, rfl⟩
      | false => exact .inr ⟨rfl, rfl⟩

theorem spent_of_receive {s s' : Session σ} {turns : List (Turn σ)} {e : SessionError}
    (h : s.receive turns = (.error e, s')) : s'.Spent ∧ e = s'.failure := by
  obtain ⟨s'', -, hawait⟩ := await_eq (P := fun _ => True) (fun _ _ => id) received? turns
    (s := s) trivial
  rcases receive_of_await hawait with
    ⟨message, connection, -, hother⟩ | ⟨hnext, ⟨-, hother⟩ | ⟨hclosed, hother⟩⟩
  · cases h.symm.trans hother
  · cases h.symm.trans hother
  · cases h.symm.trans hother
    exact ⟨⟨hclosed, hnext⟩, rfl⟩

namespace Spent

theorem send (h : s.Spent) (message : Bytes) (turns : List (Turn σ)) :
    s.send message turns = (.error .notConnected, s) := by
  unfold Session.send post
  rw [if_neg (by simp [h.closed])]

theorem receive (h : s.Spent) (turns : List (Turn σ)) :
    s.receive turns = (.error s.failure, s) := by
  have hverdict : s.received? = some (.error s.failure, s) := by
    unfold received?
    rw [h.empty]
    dsimp only
    rw [if_neg (by simp [h.closed])]
  unfold Session.receive
  cases turns <;> rw [await, hverdict] <;> rfl

theorem perform (h : s.Spent) {call : Call σ} (hcall : call ≠ .close) : s.perform call = s := by
  cases call with
  | send message turns => rw [Session.perform, h.send]
  | receive turns => rw [Session.perform, h.receive]
  | close => exact absurd rfl hcall

theorem after (h : s.Spent) {calls : List (Call σ)} (hcalls : .close ∉ calls) :
    s.after calls = s := by
  induction calls with
  | nil => rfl
  | cons call calls ih =>
    have hsame := h.perform fun hcall : call = .close => hcalls (hcall ▸ List.mem_cons_self)
    have hrest : .close ∉ calls := fun hmem => hcalls (List.mem_cons_of_mem call hmem)
    unfold Session.after at ih ⊢
    rw [List.foldl_cons, hsame, ih hrest]

end Spent

namespace Gone

theorem perform (h : s.Gone) (call : Call σ) : (s.perform call).Gone := by
  cases call with
  | send message turns =>
    rw [Session.perform, h.spent.send]
    exact h
  | receive turns =>
    rw [Session.perform, h.spent.receive]
    exact h
  | close => exact gone_close s

theorem after (h : s.Gone) (calls : List (Call σ)) : (s.after calls).Gone := by
  induction calls generalizing s with
  | nil => exact h
  | cons call calls ih => exact ih (h.perform call)

theorem failed (h : s.Gone) {answer : Except SessionError Unit} {e : SessionError}
    (hanswer : answer = .error e)
    (he : e = .timeout .connecting ∨ ∃ f, e = .link f ∧ s.connection.failure = some f) :
    ConnectEnds answer s :=
  .failed hanswer he h.closed h.unconnected
    (fun calls message turns => congrArg Prod.fst ((h.after calls).spent.send message turns))
    (fun calls turns => ⟨_, congrArg Prod.fst ((h.after calls).spent.receive turns)⟩)

end Gone

theorem connectEnds_of_dialed? {answer : Except SessionError Unit} (h : s.connection.Accounted)
    (hdialed : s.dialed? = some answer) : ConnectEnds answer s := by
  unfold dialed? at hdialed
  split at hdialed
  · next hconnected =>
    cases hdialed
    exact .stands rfl hconnected
  · next hconnected =>
    split at hdialed
    · cases hdialed
    · next hactive =>
      cases hdialed
      have hgone : s.Gone := ⟨by simpa using hactive, by simpa using hconnected⟩
      obtain ⟨f, hf⟩ := h hgone.closed
      refine hgone.failed rfl (.inr ⟨f, ?_, hf⟩)
      unfold failure
      rw [hf]

/-- Whatever the session was before, and whatever happens to the socket and when the time is over,
an attempt to connect ends in one of these ways. -/
theorem connect_ends (machine : Machine σ) (turns : List (Turn σ)) (s : Session σ) :
    ConnectEnds (s.connect machine turns).1 (s.connect machine turns).2 := by
  cases hanswer : (s.connection.startConnect machine s.config.link.bindAddress s.config.link.host
      s.config.link.port).answer with
  | error f =>
    obtain ⟨watcher, hafter⟩ := Connection.startConnect_eq_error hanswer
    unfold connect dial
    dsimp only
    rw [hanswer, hafter]
    exact Gone.failed ⟨rfl, rfl⟩ rfl (.inr ⟨f, rfl, rfl⟩)
  | ok u =>
    obtain ⟨watcher, opening, phase, handshake, dialed, realHost, realPort, -, -, -, hafter⟩ :=
      Connection.startConnect_eq_ok hanswer
    have hstart : (s.connection.startConnect machine s.config.link.bindAddress s.config.link.host
        s.config.link.port).after.Accounted := by
      rw [hafter]
      exact nofun
    obtain ⟨s', haccounted, hawait⟩ := await_eq (P := fun s => s.connection.Accounted)
      (fun turn _ => accounted_pump turn) (fun s => s.dialed?.map (·, s)) turns
      (s := { s with connection := _ }) hstart
    unfold connect dial
    dsimp only
    rw [hanswer]
    dsimp only [Except.mapError]
    rw [hawait]
    cases hdialed : s'.dialed? with
    | none => exact (gone_close s').failed rfl (.inl rfl)
    | some answer => exact connectEnds_of_dialed? haccounted hdialed

end Session

end LineTunnel
