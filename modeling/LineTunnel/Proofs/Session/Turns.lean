import LineTunnel.Proofs.Connection.Start
import LineTunnel.Proofs.Polling.Places
import LineTunnel.Session
import LineTunnel.Transport.Link

/-! What a session does while it waits, as moves of its connection: at each turn something happens
to the socket, the connection is served if the poll says so, and a request for credentials is
answered. -/

namespace LineTunnel

variable {σ : Type} [Pollable σ]

instance : Pollable (Recorded σ) where
  poll s asked := Pollable.poll s.stream asked

namespace Session

def answerMove (s : Session (Recorded σ)) : Move σ :=
  .submit ((s.config.proxy.bind (·.authUser)).getD "")
    ((s.config.proxy.bind (·.authPassword)).getD "")

def turnMoves (turn : Turn σ) (s : Session (Recorded σ)) : List (Move σ) :=
  let c := s.connection.turned turn
  .turn turn :: match Polling.ready? c with
    | none => []
    | some ready =>
      .service ready :: if (c.service ready).notices.any isPrompt then [s.answerMove] else []

theorem turnMoves_cases (turn : Turn σ) (s : Session (Recorded σ)) :
    s.turnMoves turn = [.turn turn] ∨ ∃ ready,
      ((s.connection.turned turn).service ready).notices.any isPrompt = false ∧
        s.turnMoves turn = [.turn turn, .service ready] ∨
      ((s.connection.turned turn).service ready).notices.any isPrompt = true ∧
        s.turnMoves turn = [.turn turn, .service ready, s.answerMove] := by
  unfold turnMoves
  dsimp only
  cases Polling.ready? (s.connection.turned turn) with
  | none => exact .inl rfl
  | some ready =>
    refine .inr ⟨ready, ?_⟩
    cases hprompt : ((s.connection.turned turn).service ready).notices.any isPrompt with
    | false => exact .inl ⟨rfl, by simp [hprompt]⟩
    | true => exact .inr ⟨rfl, by simp [hprompt]⟩

theorem effect_submit_after (user password : String) (c : Connection (Recorded σ)) :
    ((Move.submit user password).effect c).after = (c.submit user password).after := by
  simp only [Move.effect]
  split <;> rfl

theorem pump_of_ready?_eq_none {turn : Turn σ} {s : Session (Recorded σ)}
    (h : Polling.ready? (s.connection.turned turn) = none) :
    (s.pump (Recorded.turn turn)).connection = s.connection.turned turn := by
  have hone : Polling.one (s.connection.turned turn) =
      Polling.skip (s.connection.turned turn) := by
    rw [Polling.one_eq, h]
    rfl
  unfold Connection.turned at hone
  unfold pump
  dsimp only
  rw [hone]
  rfl

theorem pump_of_ready?_eq_some {turn : Turn σ} {s : Session (Recorded σ)} {ready : Readiness}
    (h : Polling.ready? (s.connection.turned turn) = some ready) :
    (s.pump (Recorded.turn turn)).connection =
      if ((s.connection.turned turn).service ready).notices.any isPrompt then
        (answerPrompt ⟨s.config, ((s.connection.turned turn).service ready).after⟩).connection
      else ((s.connection.turned turn).service ready).after := by
  have hone : Polling.one (s.connection.turned turn) =
      Polling.serve ready (s.connection.turned turn) := by
    rw [Polling.one_eq, h]
    rfl
  unfold Connection.turned at hone
  unfold pump
  dsimp only
  rw [hone]
  split
  · next hprompt => exact (if_pos hprompt).symm
  · next hprompt => exact (if_neg hprompt).symm

theorem run_turnMoves {r : Run σ} {s : Session (Recorded σ)} (h : r.connection = s.connection)
    (turn : Turn σ) :
    (r.run (s.turnMoves turn)).connection = (s.pump (Recorded.turn turn)).connection := by
  have hturned : (r.step (.turn turn)).connection = s.connection.turned turn := by
    rw [← h]
    rfl
  unfold turnMoves
  dsimp only
  cases hready : Polling.ready? (s.connection.turned turn) with
  | none =>
    rw [pump_of_ready?_eq_none hready]
    exact hturned
  | some ready =>
    have hserved : ((r.step (.turn turn)).step (.service ready)).connection =
        ((s.connection.turned turn).service ready).after := by
      rw [← hturned]
      rfl
    rw [pump_of_ready?_eq_some hready]
    dsimp only
    split
    · have hanswered := effect_submit_after ((s.config.proxy.bind (·.authUser)).getD "")
        ((s.config.proxy.bind (·.authPassword)).getD "")
        ((r.step (.turn turn)).step (.service ready)).connection
      rw [hserved] at hanswered
      exact hserved ▸ hanswered
    · exact hserved

def awaitMoves {α : Type} (verdict : Session (Recorded σ) → Option α) :
    List (Turn σ) → Session (Recorded σ) → List (Move σ)
  | [], _ => []
  | turn :: turns, s =>
    if (verdict s).isSome then []
    else s.turnMoves turn ++ awaitMoves verdict turns (s.pump (Recorded.turn turn))

theorem await_induction {α : Type} {P : Run σ → Session (Recorded σ) → Prop}
    (hkept : ∀ turn r s, P r s → P (r.run (s.turnMoves turn)) (s.pump (Recorded.turn turn)))
    (verdict : Session (Recorded σ) → Option (α × Session (Recorded σ))) (turns : List (Turn σ))
    {r : Run σ} {s : Session (Recorded σ)} (h : P r s) :
    ∃ s', P (r.run (awaitMoves verdict turns s)) s' ∧
      s.await verdict (turns.map Recorded.turn) =
        ((verdict s').map Prod.fst, ((verdict s').map Prod.snd).getD s') := by
  -- the wait looks before each turn, and once more when no turn is left
  induction turns generalizing r s with
  | nil =>
    refine ⟨s, h, ?_⟩
    rw [List.map_nil, await]
    cases verdict s <;> rfl
  | cons turn turns ih =>
    unfold awaitMoves
    cases hverdict : verdict s with
    | some found =>
      refine ⟨s, h, ?_⟩
      rw [List.map_cons, await, hverdict]
      rfl
    | none =>
      obtain ⟨s', hs', hawait⟩ := ih (hkept turn r s h)
      refine ⟨s', ?_, ?_⟩
      · rw [Option.isSome_none, if_neg Bool.false_ne_true, Run.run_append]
        exact hs'
      · rw [← hawait, List.map_cons, await, hverdict]

theorem await_moves {α : Type} (verdict : Session (Recorded σ) → Option (α × Session (Recorded σ)))
    (turns : List (Turn σ)) {r : Run σ} {s : Session (Recorded σ)}
    (h : r.connection = s.connection) :
    ∃ s', (r.run (awaitMoves verdict turns s)).connection = s'.connection ∧
      s.await verdict (turns.map Recorded.turn) =
        ((verdict s').map Prod.fst, ((verdict s').map Prod.snd).getD s') :=
  await_induction (P := fun r s => r.connection = s.connection)
    (fun turn _ _ h => run_turnMoves h turn) verdict turns h

inductive Waits : Move σ → Prop
  | turn (f : σ → σ) : Waits (.turn f)
  | service (ready : Readiness) : Waits (.service ready)
  | submit (user password : String) : Waits (.submit user password)

namespace Waits

variable {m : Move σ}

omit [Pollable σ]

theorem ne_queue (h : Waits m) (message : Bytes) : m ≠ .queue message := by
  cases h <;> exact nofun

theorem ne_next (h : Waits m) : m ≠ .next := by
  cases h <;> exact nofun

theorem ne_take (h : Waits m) (n : Nat) : m ≠ .take n := by
  cases h <;> exact nofun

end Waits

theorem waits_of_mem_turnMoves {m : Move σ} {turn : Turn σ} {s : Session (Recorded σ)}
    (hm : m ∈ s.turnMoves turn) : Waits m := by
  rcases s.turnMoves_cases turn with hmoves | ⟨ready, ⟨-, hmoves⟩ | ⟨-, hmoves⟩⟩ <;>
    simp only [hmoves, List.mem_cons, List.not_mem_nil, or_false] at hm
  · subst hm
    exact .turn turn
  · rcases hm with rfl | rfl
    · exact .turn turn
    · exact .service ready
  · rcases hm with rfl | rfl | rfl
    · exact .turn turn
    · exact .service ready
    · exact .submit ..

theorem waits_of_mem_awaitMoves {α : Type} {verdict : Session (Recorded σ) → Option α} {m : Move σ}
    (turns : List (Turn σ)) {s : Session (Recorded σ)} (hm : m ∈ awaitMoves verdict turns s) :
    Waits m := by
  induction turns generalizing s with
  | nil => cases hm
  | cons turn turns ih =>
    unfold awaitMoves at hm
    split at hm
    · cases hm
    · rcases List.mem_append.1 hm with hnow | hlater
      · exact waits_of_mem_turnMoves hnow
      · exact ih hlater

def dialRun (machine : Machine σ) (s : Session (Recorded σ)) : Option (Run σ) :=
  Run.dial machine s.config.link.bindAddress s.config.link.host s.config.link.port s.connection

def linking (link : Link) : Machine Link where
  lookup _ := .ok [⟨127, 0, 0, 1⟩]
  user := { uid := 0, login := none }
  bind _ := .ok ()
  dial _ _ _ := .ok (.connected link)

def connectMoves (machine : Machine σ) (turns : List (Turn σ)) (s : Session (Recorded σ)) :
    List (Move σ) :=
  awaitMoves (fun s => s.dialed?.map (·, s)) turns (s.dial machine.recorded).2

omit [Pollable σ] in
theorem connection_dialRun {machine : Machine σ} {s : Session (Recorded σ)} {r : Run σ}
    (h : s.dialRun machine = some r) :
    r.connection = (s.dial machine.recorded).2.connection := by
  unfold dialRun Run.dial at h
  dsimp only at h
  split at h
  · cases h
    rfl
  · cases h

theorem connect_cases {P : Run σ → Session (Recorded σ) → Prop}
    (hkept : ∀ turn r s, P r s → P (r.run (s.turnMoves turn)) (s.pump (Recorded.turn turn)))
    (machine : Machine σ) (turns : List (Turn σ)) {s : Session (Recorded σ)}
    (hstart : ∀ r, s.dialRun machine = some r → P r (s.dial machine.recorded).2) :
    (∃ f, s.connect machine.recorded (turns.map Recorded.turn) =
        (.error (.link f), (s.dial machine.recorded).2) ∧ s.dialRun machine = none) ∨
      ∃ r s', s.dialRun machine = some r ∧ P (r.run (s.connectMoves machine turns)) s' ∧
        s.connect machine.recorded (turns.map Recorded.turn) =
          match s'.dialed? with
          | some answer => (answer, s')
          | none => (.error (.timeout .connecting), s'.close) := by
  have hdial := Run.dial_isSome_iff machine s.config.link.bindAddress s.config.link.host
    s.config.link.port s.connection
  cases hanswer : (s.connection.startConnect machine.recorded s.config.link.bindAddress
      s.config.link.host s.config.link.port).answer with
  | error f =>
    refine .inl ⟨f, ?_, ?_⟩
    · unfold connect dial
      dsimp only
      rw [hanswer]
      rfl
    · rw [hanswer] at hdial
      exact Option.not_isSome_iff_eq_none.1 fun h => nomatch hdial.1 h
  | ok u =>
    obtain ⟨r, hr⟩ := Option.isSome_iff_exists.1 (hdial.2 hanswer)
    obtain ⟨s', hs', hawait⟩ := await_induction hkept (fun s => s.dialed?.map (·, s)) turns
      (hstart r hr)
    refine .inr ⟨r, s', hr, hs', ?_⟩
    unfold dial at hawait
    unfold connect dial
    dsimp only at hawait ⊢
    rw [hanswer]
    dsimp only [Except.mapError]
    rw [hawait]
    cases s'.dialed? <;> rfl

def flushed? (s : Session σ) : Option (Unit × Session σ) :=
  if s.isFlushed then some ((), s) else none

def flushMoves : List (Turn σ) → Session (Recorded σ) → List (Move σ)
  | [], _ => []
  | turn :: turns, s =>
    if s.isFlushed then []
    else s.turnMoves turn ++ flushMoves turns (s.pump (Recorded.turn turn))

theorem flushMoves_eq (turns : List (Turn σ)) (s : Session (Recorded σ)) :
    flushMoves turns s = awaitMoves flushed? turns s := by
  induction turns generalizing s with
  | nil => rfl
  | cons turn turns ih =>
    unfold flushMoves awaitMoves flushed?
    rw [ih]
    cases s.isFlushed <;> rfl

theorem await_flushed? (turns : List (Turn σ)) {r : Run σ} {s : Session (Recorded σ)}
    (h : r.connection = s.connection) :
    ∃ s', s.await flushed? (turns.map Recorded.turn) =
        (if s'.isFlushed then some () else none, s') ∧
      (r.run (flushMoves turns s)).connection = s'.connection := by
  rw [flushMoves_eq]
  obtain ⟨s', hrun, hawait⟩ := await_moves flushed? turns h
  refine ⟨s', ?_, hrun⟩
  rw [hawait]
  unfold flushed?
  cases s'.isFlushed <;> rfl

theorem ne_queue_of_mem_flushMoves {m : Move σ} (message : Bytes) (turns : List (Turn σ))
    {s : Session (Recorded σ)} (hm : m ∈ flushMoves turns s) : m ≠ .queue message := by
  rw [flushMoves_eq] at hm
  exact (waits_of_mem_awaitMoves turns hm).ne_queue message

end Session

end LineTunnel
