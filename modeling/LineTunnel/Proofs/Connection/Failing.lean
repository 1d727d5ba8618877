import LineTunnel.Proofs.Connection.Simulation
import LineTunnel.Transport.Script

/-! A failure ends a connection, and one service call tells of it. From then on there is no socket,
so that nothing more can happen, until a new connection begins. -/

namespace LineTunnel

variable {σ : Type}

def Operation.begins (c : Connection σ) : Operation σ → Bool
  | adopt _ => true
  | startConnect machine bindAddress host port =>
    (c.startConnect machine bindAddress host port).answer.isOk
  | _ => false

namespace Connection

/-- A service call goes well, or it reports a failure, which is kept, and closes the connection. -/
inductive Ends (e : Effect σ Outcome) : Prop
  | well : e.answer.failure = none → e.after.isActive = true → e.after.failure = none → Ends e
  | failed {f : Failure} : e.answer.failure = some f → e.after.isActive = false →
      e.after.watch = .none → e.after.failure = some f → Ends e

variable [Transport σ]

def Lasts (c : Connection σ) : List (Operation σ) → Prop
  | [] => True
  | op :: ops => op.begins c = false ∧ (c.apply op).Lasts ops

def reported (c : Connection σ) : Operation σ → List Failure
  | .service ready => (c.service ready).answer.failure.toList
  | _ => []

def failures (c : Connection σ) : List (Operation σ) → List Failure
  | [] => []
  | op :: ops => c.reported op ++ (c.apply op).failures ops

theorem service_ends {c : Connection σ} {s : σ} (hs : c.socket = some s) (ready : Readiness) :
    Ends (c.service ready) := by
  obtain ⟨result, c', waiting, told, hwork, hquiet, hservice⟩ := service_work hs ready
  obtain ⟨socket, phase, inbound, outbound, handshake, hsocket, rfl⟩ := hwork.eq hs
  rw [hservice]
  unfold finish
  cases result with
  | ok u =>
    obtain ⟨watcher, told', -, hsettle⟩ := settle_eq _ waiting hquiet
    dsimp only
    rw [hsettle]
    exact .well rfl hsocket (hwork.failure_eq_none rfl)
  | error f =>
    obtain ⟨watcher, told', -, hfail⟩ := fail_eq _ f waiting hquiet
    dsimp only
    rw [hfail]
    exact .failed rfl rfl (watch_of_closed rfl) rfl

theorem service_of_known {c : Connection σ} {s : σ} {f : Failure} (hs : c.socket = some s)
    (hf : c.failure = some f) (ready : Readiness) :
    (c.service ready).answer = { failure := some f } ∧ (c.service ready).lastSocket = some s ∧
      ∃ watcher, (c.service ready).after = { c with watcher, socket := (none : Option σ) } := by
  have hservice : c.service ready = c.fail f false [] := by
    unfold service
    rw [hs, hf]
  obtain ⟨watcher, told, hclosed, hfail⟩ :=
    c.fail_eq f false closedSockets_nil
  rw [hservice, hfail]
  refine ⟨rfl, ?_, watcher, by rw [← hf]⟩
  unfold Effect.lastSocket
  dsimp only
  rw [hclosed, hs]
  rfl

theorem isActive_apply {c : Connection σ} (h : c.isActive = false) {op : Operation σ}
    (hop : op.begins c = false) : (c.apply op).isActive = false := by
  cases op with
  | queue message =>
    rcases c.queue_cases message with ⟨watcher, outbound, told, -, -, hqueue⟩ |
      ⟨f, watcher, told, -, hqueue⟩
    all_goals
      rw [apply, hqueue]
      exact h
  | submit user password =>
    rcases c.submit_cases user password with
      ⟨n, frame, watcher, handshake, told, -, -, -, -, -, hsubmit⟩ |
      ⟨f, failure, watcher, told, -, -, hsubmit⟩
    all_goals
      rw [apply, hsubmit]
      exact h
  | service ready =>
    rw [apply, service_of_inactive h]
    exact h
  | next =>
    rcases c.next_cases with hnext | ⟨-, body, rest, -, -, hnext⟩
    all_goals
      rw [apply, hnext]
      exact h
  | take n =>
    rcases c.take_cases n with htake | ⟨-, htake⟩
    all_goals
      rw [apply, htake]
      exact h
  | setWatcher listener =>
    obtain ⟨watcher, told, -, hset⟩ := c.setWatcher_eq listener
    rw [apply, hset]
    exact h
  | setPrompter listener => exact h
  | shutdown =>
    obtain ⟨watcher, told, hshutdown⟩ := c.shutdown_eq
    rw [apply, hshutdown]
    rfl
  | adopt socket => cases hop
  | refuse f =>
    obtain ⟨watcher, told, hshutdown⟩ := c.shutdown_eq
    rw [apply, refuse, hshutdown]
    rfl
  | startConnect machine bindAddress host port =>
    cases hanswer : (c.startConnect machine bindAddress host port).answer with
    | ok u =>
      rw [Operation.begins, hanswer] at hop
      cases hop
    | error f =>
      obtain ⟨watcher, hafter⟩ := startConnect_eq_error hanswer
      rw [apply, hafter]
      rfl
  | turn f => simpa [isActive, apply] using h

theorem isActive_after {c : Connection σ} (h : c.isActive = false) {ops : List (Operation σ)}
    (hops : c.Lasts ops) : (c.after ops).isActive = false := by
  induction ops generalizing c with
  | nil => exact h
  | cons op ops ih => exact ih (isActive_apply h hops.1) hops.2

theorem failures_of_inactive {c : Connection σ} (h : c.isActive = false) {ops : List (Operation σ)}
    (hops : c.Lasts ops) : c.failures ops = [] := by
  induction ops generalizing c with
  | nil => rfl
  | cons op ops ih =>
    have hfirst : c.reported op = [] := by
      cases op with
      | service ready =>
        rw [reported, service_of_inactive h]
        rfl
      | _ => rfl
    have hrest : (c.apply op).failures ops = [] := ih (isActive_apply h hops.1) hops.2
    rw [failures, hfirst, hrest]
    rfl

theorem reported_cases (c : Connection σ) (op : Operation σ) :
    c.reported op = [] ∨ ∃ f, c.reported op = [f] ∧ (c.apply op).isActive = false := by
  cases op with
  | service ready =>
    cases hs : c.socket with
    | none =>
      rw [reported, service_closed hs]
      exact .inl rfl
    | some s =>
      cases service_ends hs ready with
      | well hnone =>
        rw [reported, hnone]
        exact .inl rfl
      | failed hf hclosed =>
        rw [reported, hf]
        exact .inr ⟨_, rfl, hclosed⟩
  | _ => exact .inl rfl

theorem length_failures_le_one {c : Connection σ} {ops : List (Operation σ)} (hops : c.Lasts ops) :
    (c.failures ops).length ≤ 1 := by
  induction ops generalizing c with
  | nil => exact Nat.zero_le 1
  | cons op ops ih =>
    rw [failures]
    rcases c.reported_cases op with hnone | ⟨f, hf, hclosed⟩
    · rw [hnone]
      exact ih hops.2
    · rw [hf, failures_of_inactive hclosed hops.2]
      exact Nat.le_refl 1

theorem connecting_of_failed {c : Connection σ} {ready : Readiness}
    (h : (c.service ready).answer.failure ≠ none) :
    c.fields.service ready = (c.service ready).stored ∧
      (c.fields.service ready).2.1.connecting = false := by
  have hstored : c.fields.service ready = (c.service ready).stored :=
    fields_service fun hwell => absurd hwell h
  refine ⟨hstored, ?_⟩
  rw [hstored]
  change ((c.service ready).after.isActive && _) = false
  cases hs : c.socket with
  | none =>
    rw [service_closed hs] at h
    exact absurd rfl h
  | some s =>
    cases service_ends hs ready with
    | well hnone => exact absurd hnone h
    | failed hf hclosed =>
      rw [hclosed]
      rfl

/-- A service call on an open connection goes well, or it reports a failure and closes, and then no
connect is pending. A failure that is known is reported without a byte read or written. Once closed,
the connection stays as it is left until another begins, and one connection reports one failure at
most. -/
theorem service_surfaces_once {c : Connection σ} {s : σ} (hs : c.socket = some s)
    (ready : Readiness) :
    Ends (c.service ready) ∧
    ((c.service ready).answer.failure ≠ none →
      c.fields.service ready = (c.service ready).stored ∧
        (c.fields.service ready).2.1.connecting = false) ∧
    (∀ f, c.failure = some f → (c.service ready).answer = { failure := some f } ∧
      (c.service ready).lastSocket = some s ∧
      ∃ watcher, (c.service ready).after = { c with watcher, socket := (none : Option σ) }) ∧
    ((c.service ready).answer.failure ≠ none → ∀ ops, (c.service ready).after.Lasts ops →
      ∀ ready', ((c.service ready).after.after ops).service ready' =
        ⟨{}, (c.service ready).after.after ops, []⟩) ∧
    ∀ ops, c.Lasts ops → (c.failures ops).length ≤ 1 := by
  refine ⟨service_ends hs ready, connecting_of_failed, fun f hf => service_of_known hs hf ready,
    ?_, fun ops => length_failures_le_one⟩
  intro hfailed ops hops ready'
  cases service_ends hs ready with
  | well hnone => exact absurd hnone hfailed
  | failed hf hclosed => exact service_of_inactive (isActive_after hclosed hops) ready'

theorem service_surfaces_once_of_finished :
    let script : Script := { reads := [.data [104, 10], .endOfStream] }
    let c : Connection Script := ((create ⟨10, some 13⟩ none).adopt script).after
    (c.service .reading).answer = { dataWaiting := true, failure := some (.link .closedByPeer) } ∧
      c.failures [.service .reading, .queue [97], .service .writing, .next, .service .reading] =
        [.link .closedByPeer] ∧
      (∀ ops, (c.service .reading).after.Lasts ops → ∀ ready,
        ((c.service .reading).after.after ops).service ready =
          ⟨{}, (c.service .reading).after.after ops, []⟩) ∧
      ∀ ops, c.Lasts ops → (c.failures ops).length ≤ 1 := by
  intro script c
  have hanswer : (c.service .reading).answer =
      { dataWaiting := true, failure := some (.link .closedByPeer) } := by decide +kernel
  have hsurfaces := service_surfaces_once (c := c) (s := script) rfl .reading
  refine ⟨hanswer, by decide +kernel, hsurfaces.2.2.2.1 ?_, hsurfaces.2.2.2.2⟩
  rw [hanswer]
  exact nofun

end Connection

end LineTunnel
