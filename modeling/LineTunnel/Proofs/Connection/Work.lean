import LineTunnel.Connection.Service
import LineTunnel.Proofs.Connection.Operations

/-! What one service call can do to an open connection, case by case, and how the call ends: with
the socket still open, or with a failure that is kept and the socket closed. -/

namespace LineTunnel

variable {σ : Type}

namespace Phase

def isOpened : Phase → Bool
  | unconnected _ => false
  | _ => true

def ofProgress (p : Except Failure Socks.Progress) (n : Socks.Negotiation) : Phase :=
  match p with
  | .ok .connected => connected
  | _ => negotiating n

end Phase

def OnlyPrompts (told : List (Notice σ)) : Prop :=
  ∀ notice ∈ told, ∃ listener server, notice = .prompt listener server

theorem OnlyPrompts.closedSockets_eq_nil {told : List (Notice σ)} (h : OnlyPrompts told) :
    closedSockets told = [] := by
  refine List.filterMap_eq_nil_iff.2 fun notice hmem => ?_
  obtain ⟨listener, server, rfl⟩ := h notice hmem
  rfl

namespace Connection

def finish (c : Connection σ) (result : Except Failure Unit) (waiting : Bool)
    (told : List (Notice σ)) : Effect σ Outcome :=
  match result with
  | .ok () => c.settle waiting told
  | .error f => c.fail f waiting told

theorem settle_eq (c : Connection σ) (waiting : Bool) {told : List (Notice σ)}
    (htold : closedSockets told = []) :
    ∃ watcher told', closedSockets told' = [] ∧
      c.settle waiting told = ⟨{ dataWaiting := waiting }, { c with watcher }, told'⟩ := by
  obtain ⟨watcher, reported, hquiet, hreport⟩ := c.report_eq false
  unfold settle
  rw [hreport]
  refine ⟨watcher, told ++ reported, ?_, rfl⟩
  rw [closedSockets_append, htold, hquiet, List.append_nil]

theorem fail_eq (c : Connection σ) (f : Failure) (waiting : Bool) {told : List (Notice σ)}
    (htold : closedSockets told = []) :
    ∃ watcher told', closedSockets told' = c.socket.toList ∧
      c.fail f waiting told = ⟨{ dataWaiting := waiting, failure := some f },
        { c with watcher, socket := none, failure := some f }, told'⟩ := by
  obtain ⟨watcher, closed, hclosed, hclose⟩ :=
    ({ c with failure := some f } : Connection σ).closeSocket_eq
  unfold fail
  rw [hclose]
  refine ⟨watcher, told ++ closed, ?_, rfl⟩
  rw [closedSockets_append, htold, hclosed, List.nil_append]

theorem finish_eq (c : Connection σ) (result : Except Failure Unit) (waiting : Bool)
    {told : List (Notice σ)} (htold : closedSockets told = []) : ∃ socket failure watcher,
      (c.finish result waiting told).after = { c with socket, failure, watcher } := by
  cases result with
  | ok u =>
    obtain ⟨watcher, told', -, hsettle⟩ := c.settle_eq waiting htold
    exact ⟨_, _, watcher, congrArg Effect.after hsettle⟩
  | error f =>
    obtain ⟨watcher, told', -, hfail⟩ := c.fail_eq f waiting htold
    exact ⟨_, _, watcher, congrArg Effect.after hfail⟩

theorem finish_cases {c : Connection σ} {s : σ} (hs : c.socket = some s)
    (result : Except Failure Unit) (waiting : Bool) {told : List (Notice σ)}
    (htold : closedSockets told = []) :
    ∃ outcome socket failure watcher told',
      c.finish result waiting told = ⟨outcome, { c with socket, failure, watcher }, told'⟩ ∧
      (c.finish result waiting told).lastSocket = some s ∧
      (socket = some s ∧ result = .ok () ∨ socket = none) := by
  cases result with
  | ok u =>
    obtain ⟨watcher, told', hquiet, hsettle⟩ := c.settle_eq waiting htold
    refine ⟨{ dataWaiting := waiting }, some s, c.failure, watcher, told', ?_, ?_, .inl ⟨rfl, rfl⟩⟩
    · rw [← hs]
      exact hsettle
    · change (c.settle waiting told).lastSocket = some s
      rw [hsettle, Effect.lastSocket_of_quiet hquiet]
      exact hs
  | error f =>
    obtain ⟨watcher, told', hclosed, hfail⟩ := c.fail_eq f waiting htold
    refine ⟨_, none, some f, watcher, told', hfail, ?_, .inr rfl⟩
    change (c.fail f waiting told).lastSocket = some s
    rw [hfail]
    unfold Effect.lastSocket
    dsimp only
    rw [hclosed, hs]
    rfl

theorem advance_negotiating {c : Connection σ} {n : Socks.Negotiation}
    (hphase : c.phase = .negotiating n) :
    ∃ p x told, closedSockets told = [] ∧
      (Socks.Exchange.mk n c.inbound c.handshake).advance c.prompter.isSome = (p, x) ∧
      c.advance = (p.map fun _ => (), { c with
        phase := .ofProgress p x.negotiation, inbound := x.inbound, handshake := x.outbound },
        told) := by
  unfold advance
  rw [hphase]
  dsimp only
  cases hadvance :
      (Socks.Exchange.mk n c.inbound c.handshake).advance c.prompter.isSome with
  | mk p x =>
    cases p with
    | error f => exact ⟨_, x, [], rfl, rfl, rfl⟩
    | ok progress =>
      cases progress with
      | needMore => exact ⟨_, x, [], rfl, rfl, rfl⟩
      | connected => exact ⟨_, x, [], rfl, rfl, rfl⟩
      | credentialsRequested =>
        dsimp only
        split <;> exact ⟨_, x, _, rfl, rfl, rfl⟩

theorem advance_otherwise {c : Connection σ} (hphase : ∀ n, c.phase ≠ .negotiating n) :
    c.advance = (.ok (), c, []) := by
  unfold advance
  split
  · next n h => exact absurd h (hphase n)
  · rfl

theorem advance_onlyPrompts (c : Connection σ) : OnlyPrompts c.advance.2.2 := by
  unfold advance
  split
  · dsimp only
    split
    · exact nofun
    · exact nofun
    · split
      · exact List.forall_mem_singleton.2 ⟨_, _, rfl⟩
      · exact nofun
    · exact nofun
  · exact nofun

theorem advance_eq (c : Connection σ) : ∃ phase inbound handshake,
    c.advance.2.1 = { c with phase, inbound, handshake } := by
  by_cases h : ∃ n, c.phase = .negotiating n
  · obtain ⟨n, hphase⟩ := h
    obtain ⟨p, x, told, -, -, hadvance⟩ := advance_negotiating hphase
    exact ⟨_, _, _, by rw [hadvance]⟩
  · exact ⟨_, _, _, by rw [advance_otherwise fun n hphase => h ⟨n, hphase⟩]⟩

variable [Transport σ]

def flushIf (ready : Readiness) (c : Connection σ) : Except Failure Unit × Connection σ :=
  if ready.writable then c.flush else (.ok (), c)

theorem flushIf_eq (c : Connection σ) (ready : Readiness) : ∃ socket outbound handshake,
    socket.isSome = c.isActive ∧
      (c.flushIf ready).2 = { c with socket, outbound, handshake } := by
  unfold flushIf flush
  split
  · split
    · exact ⟨_, _, _, rfl, rfl⟩
    · next s n hs hphase => exact ⟨_, _, _, by rw [isActive, hs]; rfl, rfl⟩
    · next s hs hphase =>
      split
      · exact ⟨_, _, _, rfl, rfl⟩
      · exact ⟨_, _, _, by rw [isActive, hs]; rfl, rfl⟩
  · exact ⟨_, _, _, rfl, rfl⟩

theorem fill_eq (c : Connection σ) : ∃ socket inbound,
    socket.isSome = c.isActive ∧ c.fill.2 = { c with socket, inbound } := by
  unfold fill
  split
  · exact ⟨_, _, rfl, rfl⟩
  · next s hs => exact ⟨_, _, by rw [isActive, hs]; rfl, rfl⟩

theorem fill_open {c : Connection σ} {s : σ} (hs : c.socket = some s) :
    c.fill = ((Transport.fill s c.inbound).1, { c with
      socket := some (Transport.fill s c.inbound).2.1
      inbound := (Transport.fill s c.inbound).2.2 }) := by
  unfold fill
  rw [hs]

def absorb (c : Connection σ) : Except Failure Unit × Connection σ :=
  ((c.fill.2.advance.1).bind fun _ => c.fill.1, c.fill.2.advance.2.1)

theorem absorb_eq {c filled c' : Connection σ} {verdict read : Except Failure Unit}
    {told : List (Notice σ)} (hfill : c.fill = (read, filled))
    (hadvance : filled.advance = (verdict, c', told)) :
    c.absorb = (verdict.bind fun _ => read, c') := by
  unfold absorb
  rw [hfill]
  dsimp only
  rw [hadvance]

/-- The ways in which a service call works on a connection with the open socket `s`. -/
inductive Work (ready : Readiness) (c : Connection σ) (s : σ) :
    Except Failure Unit → Connection σ → Prop where
  | known {f : Failure} : c.failure = some f → Work ready c s (.error f) c
  | exceptional : c.failure = none → ready.exceptional = true →
      Work ready c s
        (.error (((Transport.pendingError s).1.map StreamError.toFailure).getD
          (.link .socketException)))
        { c with socket := some (Transport.pendingError s).2 }
  | waiting {opening : Option Socks.Negotiation} : c.failure = none →
      c.phase = .unconnected opening → ready.writable = false → Work ready c s (.ok ()) c
  | refused {opening : Option Socks.Negotiation} {e : StreamError} : c.failure = none →
      c.phase = .unconnected opening → (Transport.pendingError s).1 = some e →
      Work ready c s (.error e.toFailure) { c with socket := some (Transport.pendingError s).2 }
  | opened {opening : Option Socks.Negotiation} : c.failure = none →
      c.phase = .unconnected opening → (Transport.pendingError s).1 = none →
      Work ready c s (.ok ())
        { c with socket := some (Transport.pendingError s).2, phase := .opened opening }
  | unsent {f : Failure} : c.failure = none → c.phase.isOpened = true →
      (c.flushIf ready).1 = .error f → Work ready c s (.error f) (c.flushIf ready).2
  | sent : c.failure = none → c.phase.isOpened = true → (c.flushIf ready).1 = .ok () →
      ready.readable = false → Work ready c s (.ok ()) (c.flushIf ready).2
  | read : c.failure = none → c.phase.isOpened = true → (c.flushIf ready).1 = .ok () →
      ready.readable = true →
      Work ready c s (c.flushIf ready).2.absorb.1 (c.flushIf ready).2.absorb.2

theorem receive_eq_finish (c : Connection σ) : c.receive =
    c.absorb.2.finish c.absorb.1 (c.absorb.2.isConnected && !c.absorb.2.inbound.isEmpty)
      c.fill.2.advance.2.2 := by
  unfold receive absorb
  dsimp only
  cases c.fill.2.advance.1 with
  | error f => rfl
  | ok u =>
    cases c.fill.1 with
    | error f => rfl
    | ok u => rfl

theorem receive_of_advance {c filled c' : Connection σ} {verdict read : Except Failure Unit}
    {told : List (Notice σ)} (hfill : c.fill = (read, filled))
    (hadvance : filled.advance = (verdict, c', told)) : c.receive =
      c'.finish (verdict.bind fun _ => read) (c'.isConnected && !c'.inbound.isEmpty) told := by
  rw [receive_eq_finish, absorb_eq hfill hadvance, hfill]
  dsimp only
  rw [hadvance]

theorem receive_eq (c : Connection σ) :
    ∃ waiting told, OnlyPrompts told ∧
      c.receive = c.absorb.2.finish c.absorb.1 waiting told :=
  ⟨_, _, advance_onlyPrompts _, c.receive_eq_finish⟩

theorem exchange_eq (c : Connection σ) (ready : Readiness) : c.exchange ready =
    match (c.flushIf ready).1 with
    | .error f => (c.flushIf ready).2.fail f false []
    | .ok () => if ready.readable then (c.flushIf ready).2.receive
      else (c.flushIf ready).2.settle false [] := rfl

theorem service_eq_exchange {c : Connection σ} {s : σ} (hs : c.socket = some s)
    (hf : c.failure = none) (hphase : c.phase.isOpened = true) {ready : Readiness}
    (hready : ready.exceptional = false) : c.service ready = c.exchange ready := by
  unfold service
  rw [hs, hf]
  dsimp only
  rw [if_neg (by simp [hready])]
  split
  · next opening h =>
    rw [h] at hphase
    cases hphase
  · rfl

theorem service_of_sent {c : Connection σ} {s : σ} (hs : c.socket = some s) (hf : c.failure = none)
    (hphase : c.phase.isOpened = true) {ready : Readiness} (hex : ready.exceptional = false)
    (hsent : (c.flushIf ready).1 = .ok ()) (hready : ready.readable = true) :
    c.service ready = (c.flushIf ready).2.receive := by
  rw [service_eq_exchange hs hf hphase hex, exchange_eq, hsent]
  exact if_pos hready

theorem exchange_work {c : Connection σ} {s : σ} (ready : Readiness) (hf : c.failure = none)
    (hphase : c.phase.isOpened = true) :
    ∃ result c' waiting told, Work ready c s result c' ∧ OnlyPrompts told ∧
      c.exchange ready = c'.finish result waiting told := by
  rw [exchange_eq]
  cases hsent : (c.flushIf ready).1 with
  | error f => exact ⟨_, _, false, [], .unsent hf hphase hsent, nofun, rfl⟩
  | ok u =>
    dsimp only
    cases hready : ready.readable with
    | false => exact ⟨_, _, false, [], .sent hf hphase hsent hready, nofun, rfl⟩
    | true =>
      obtain ⟨waiting, told, hprompts, hreceive⟩ := receive_eq (c.flushIf ready).2
      exact ⟨_, _, waiting, told, .read hf hphase hsent hready, hprompts, hreceive⟩

theorem service_eq_finish {c : Connection σ} {s : σ} (hs : c.socket = some s) (ready : Readiness) :
    ∃ result c' waiting told, Work ready c s result c' ∧ OnlyPrompts told ∧
      c.service ready = c'.finish result waiting told := by
  unfold service
  rw [hs]
  cases hf : c.failure with
  | some f => exact ⟨.error f, c, false, [], .known hf, nofun, rfl⟩
  | none =>
    dsimp only
    split
    · next hex => exact ⟨_, _, false, [], .exceptional hf hex, nofun, rfl⟩
    · split
      · next opening hphase =>
        split
        · unfold finishConnect
          dsimp only
          cases he : (Transport.pendingError s).1 with
          | none => exact ⟨_, _, false, [], .opened hf hphase he, nofun, rfl⟩
          | some e => exact ⟨_, _, false, [], .refused hf hphase he, nofun, rfl⟩
        · next hw => exact ⟨_, _, false, [], .waiting hf hphase (by simpa using hw), nofun, rfl⟩
      · next hphase =>
        refine exchange_work ready hf ?_
        cases hp : c.phase with
        | unconnected opening => exact absurd hp (hphase opening)
        | negotiating n => rfl
        | connected => rfl

theorem service_work {c : Connection σ} {s : σ} (hs : c.socket = some s) (ready : Readiness) :
    ∃ result c' waiting told, Work ready c s result c' ∧ closedSockets told = [] ∧
      c.service ready = c'.finish result waiting told := by
  obtain ⟨result, c', waiting, told, hwork, hprompts, hservice⟩ := service_eq_finish hs ready
  exact ⟨result, c', waiting, told, hwork, hprompts.closedSockets_eq_nil, hservice⟩

theorem Work.eq {c c' : Connection σ} {s : σ} {ready : Readiness} {result : Except Failure Unit}
    (h : Work ready c s result c') (hs : c.socket = some s) :
    ∃ socket phase inbound outbound handshake, socket.isSome = true ∧
      c' = { c with socket, phase, inbound, outbound, handshake } := by
  have hactive := isActive_of_socket hs
  obtain ⟨socket, outbound, handshake, hsocket, hflush⟩ := c.flushIf_eq ready
  have hflushed := hsocket.trans hactive
  cases h with
  | known hf => exact ⟨_, _, _, _, _, hactive, rfl⟩
  | exceptional hf hex => exact ⟨_, _, _, _, _, rfl, rfl⟩
  | waiting hf hphase hready => exact ⟨_, _, _, _, _, hactive, rfl⟩
  | refused hf hphase he => exact ⟨_, _, _, _, _, rfl, rfl⟩
  | opened hf hphase he => exact ⟨_, _, _, _, _, rfl, rfl⟩
  | unsent hf hphase hsent => exact ⟨_, _, _, _, _, hflushed, hflush⟩
  | sent hf hphase hsent hready => exact ⟨_, _, _, _, _, hflushed, hflush⟩
  | read hf hphase hsent hready =>
    rw [hflush]
    obtain ⟨socket', inbound, hsocket', hfill⟩ :=
      fill_eq { c with socket, outbound, handshake }
    obtain ⟨phase, inbound', handshake', hadvance⟩ :=
      advance_eq { c with socket := socket', outbound, handshake, inbound }
    refine ⟨socket', phase, inbound', outbound, handshake', hsocket'.trans hflushed, ?_⟩
    unfold absorb
    rw [hfill]
    exact hadvance

theorem Work.failure_eq_none {c c' : Connection σ} {s : σ} {ready : Readiness}
    {result : Except Failure Unit} (h : Work ready c s result c') (hresult : result = .ok ()) :
    c.failure = none := by
  cases h with
  | known hf => cases hresult
  | exceptional hf | waiting hf | refused hf | opened hf | unsent hf | sent hf | read hf => exact hf

theorem service_closed {c : Connection σ} (hs : c.socket = none) (ready : Readiness) :
    c.service ready = ⟨{}, c, []⟩ := by
  unfold service
  rw [hs]

theorem service_of_inactive {c : Connection σ} (h : c.isActive = false) (ready : Readiness) :
    c.service ready = ⟨{}, c, []⟩ :=
  service_closed (by simpa [isActive] using h) ready

theorem service_eq (c : Connection σ) (ready : Readiness) :
    ∃ socket phase inbound outbound handshake failure watcher, (c.service ready).after =
      { c with socket, phase, inbound, outbound, handshake, failure, watcher } := by
  cases hs : c.socket with
  | none => exact ⟨c.socket, _, _, _, _, _, _, by rw [service_closed hs]⟩
  | some s =>
    obtain ⟨result, c', waiting, told, hwork, hquiet, hservice⟩ := service_work hs ready
    obtain ⟨socket, phase, inbound, outbound, handshake, -, rfl⟩ := hwork.eq hs
    obtain ⟨socket', failure, watcher, hfinish⟩ := finish_eq _ result waiting hquiet
    exact ⟨socket', _, _, _, _, failure, watcher, by rw [hservice, hfinish]⟩

end Connection

end LineTunnel
