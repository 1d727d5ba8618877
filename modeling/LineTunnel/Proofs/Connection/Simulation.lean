import LineTunnel.Proofs.Connection.Fields
import LineTunnel.Proofs.Connection.Sound

/-! A phase says all that the fields say. Read field by field, a connection does, answers and tells
the same as the stored one, one operation at a time and so for life. -/

namespace LineTunnel

variable {σ α : Type}

def Phase.status : Phase → Connection.Status
  | unconnected _ => .preConnect
  | negotiating _ => .negotiating
  | connected => .connected

namespace Connection

def fields (c : Connection σ) : Fields σ where
  socket := c.socket
  inbound := c.inbound
  outbound := c.outbound
  handshake := c.handshake
  framing := c.framing
  status := c.phase.status
  connecting := c.isActive && c.phase.status == .preConnect
  server := c.server
  negotiation := c.phase.negotiation?
  failure := c.failure
  overflowed := c.overflowed
  listener := c.watcher.map (·.listener)
  reported := c.watcher.bind (·.reported)
  prompter := c.prompter

end Connection

def Effect.stored (e : Effect σ α) : α × Connection.Fields σ × List (Notice σ) :=
  (e.answer, e.after.fields, e.notices)

namespace Connection

theorem fields_create (framing : Framing) (server : Option Socks.Server) :
    (create framing server : Connection σ).fields = .create framing server := rfl

theorem fields_watch (c : Connection σ) : c.fields.watch = c.watch := by
  unfold Fields.watch watch fields isActive
  cases c.socket with
  | none => rfl
  | some s => cases c.phase <;> cases c.failure <;> simp [Phase.status]

theorem fields_watcher {c : Connection σ} {watcher : Option Watcher} (h : c.watcher = watcher) :
    c.fields.listener = watcher.map (·.listener) ∧
      c.fields.reported = watcher.bind (·.reported) := by
  cases h
  exact ⟨rfl, rfl⟩

theorem fields_report (c : Connection σ) (urgent : Bool) :
    c.fields.report urgent = ((c.report urgent).1.fields, (c.report urgent).2) := by
  unfold Fields.report report
  rw [fields_watch]
  cases hw : c.watcher with
  | none =>
    rw [(fields_watcher hw).1]
    exact ite_self _
  | some w =>
    rw [(fields_watcher hw).1, (fields_watcher hw).2]
    dsimp only [Option.map_some, Option.bind_some]
    split
    · rfl
    · unfold fields
      rw [hw]
      rfl

theorem fields_stopWatching (c : Connection σ) :
    c.fields.stopWatching = (c.stopWatching.1.fields, c.stopWatching.2) := by
  unfold Fields.stopWatching stopWatching
  cases hw : c.watcher with
  | none =>
    rw [(fields_watcher hw).1]
    unfold fields
    rw [hw]
    rfl
  | some w =>
    rw [(fields_watcher hw).1, (fields_watcher hw).2]
    unfold fields
    rw [hw]
    dsimp only [Option.map_some, Option.bind_some]
    cases w.reported with
    | none => rfl
    | some watch => cases h : watch.isEmpty <;> simp [h, isActive]

theorem fields_closeSocket (c : Connection σ) :
    c.fields.closeSocket = (c.closeSocket.1.fields, c.closeSocket.2) := by
  unfold Fields.closeSocket
  rw [fields_stopWatching]
  rfl

theorem fields_shutdown (c : Connection σ) :
    c.fields.shutdown = (c.shutdown.after.fields, c.shutdown.notices) := by
  unfold Fields.shutdown
  rw [fields_closeSocket]
  rfl

theorem fields_setWatcher (listener : Nat) (c : Connection σ) : c.fields.setWatcher listener =
    ((c.setWatcher listener).after.fields, (c.setWatcher listener).notices) := by
  unfold Fields.setWatcher
  rw [fields_stopWatching]
  dsimp only
  have hreset : { c.stopWatching.1.fields with listener := some listener } =
      ({ c.stopWatching.1 with watcher := some { listener } } : Connection σ).fields := by
    cases hw : c.watcher <;> simp [fields, stopWatching, hw] <;> rfl
  rw [hreset, fields_report]
  rfl

theorem fields_adopt (socket : σ) (c : Connection σ) : c.fields.adopt (.ok socket) =
    (.ok (), (c.adopt socket).after.fields, (c.adopt socket).notices) := by
  unfold Fields.adopt
  rw [fields_shutdown]
  dsimp only
  rw [show { c.shutdown.after.fields with socket := some socket, status := .connected } =
    ({ c.shutdown.after with socket := some socket, phase := .connected } : Connection σ).fields
    from rfl, fields_report]
  rfl

theorem fields_refuse (f : Failure) (c : Connection σ) :
    c.fields.adopt (.error f) = (c.refuse f).stored := by
  unfold Fields.adopt
  rw [fields_shutdown]
  rfl

theorem fields_queue (message : Bytes) (c : Connection σ) :
    c.fields.queue message = (c.queue message).stored := by
  unfold Fields.queue queue
  rw [show c.fields.outbound.append (c.fields.framing.encode message) =
    c.outbound.append (c.framing.encode message) from rfl]
  cases c.outbound.append (c.framing.encode message) with
  | error f =>
    dsimp only
    rw [show { c.fields with overflowed := true } =
      ({ c with overflowed := true } : Connection σ).fields from rfl, fields_report]
    rfl
  | ok outbound =>
    dsimp only
    rw [show { c.fields with outbound } = ({ c with outbound } : Connection σ).fields from rfl,
      show c.fields.outbound.isEmpty = c.outbound.isEmpty from rfl, fields_report]
    cases c.outbound.isEmpty <;> rfl

theorem fields_status (c : Connection σ) : c.fields.status = .connected ↔ c.phase = .connected := by
  unfold fields
  cases c.phase <;> simp [Phase.status]

theorem fields_next (c : Connection σ) : c.fields.next = (c.next.1, c.next.2.fields) := by
  unfold Fields.next next isConnected
  by_cases hphase : c.phase = .connected
  · rw [if_neg fun h => h ((fields_status c).2 hphase), if_pos (by rw [hphase]; rfl)]
    rw [show c.fields.framing.first? c.fields.inbound.bytes = c.framing.first? c.inbound.bytes
      from rfl]
    cases c.framing.first? c.inbound.bytes <;> rfl
  · rw [if_pos (mt (fields_status c).1 hphase), if_neg (by simpa using hphase)]

theorem fields_take (n : Nat) (c : Connection σ) :
    c.fields.take n = ((c.take n).1, (c.take n).2.fields) := by
  unfold Fields.take take
  rw [show c.fields.inbound.consume n = c.inbound.consume n from rfl]
  cases c.inbound.consume n <;> rfl

theorem fields_withNegotiation {c : Connection σ} {n : Socks.Negotiation}
    (h : c.phase.negotiation? = some n) (x : Socks.Exchange) (failure : Option Failure) :
    { c.fields with negotiation := some x.negotiation, handshake := x.outbound, failure } =
      ({ c with
        phase := c.phase.withNegotiation x.negotiation
        handshake := x.outbound
        failure } : Connection σ).fields := by
  unfold fields isActive
  cases hphase : c.phase with
  | unconnected opening =>
    rw [hphase] at h
    cases h
    rfl
  | negotiating n => rfl
  | connected =>
    rw [hphase] at h
    cases h

theorem fields_submit (user password : String) (c : Connection σ) :
    c.fields.submit user password = (c.submit user password).stored := by
  unfold Fields.submit submit
  rw [show c.fields.negotiation = c.phase.negotiation? from rfl]
  cases hn : c.phase.negotiation? with
  | none => rfl
  | some n =>
    dsimp only
    rw [show Socks.Exchange.mk n c.fields.inbound c.fields.handshake =
      ⟨n, c.inbound, c.handshake⟩ from rfl]
    obtain ⟨result, x⟩ := (Socks.Exchange.mk n c.inbound c.handshake).submit user password
    cases result with
    | ok u =>
      dsimp only
      rw [fields_withNegotiation hn, fields_report]
      rfl
    | error f =>
      dsimp only
      split
      · next h => cases h
      · next h =>
        cases h
        rw [fields_withNegotiation hn, if_pos rfl]
        rfl
      · next f' hf h =>
        cases h
        rw [fields_withNegotiation hn, if_neg hf, fields_report]
        rfl

theorem Fields.advance_of_step {s : Fields σ} {n : Socks.Negotiation} {x : Socks.Exchange}
    {p : Except Failure Socks.Progress} (hn : s.negotiation = some n)
    (h : (Socks.Exchange.mk n s.inbound s.handshake).step s.prompter.isSome = (p, x)) :
    s.advance =
      let s' := { s with
        negotiation := some x.negotiation, inbound := x.inbound, handshake := x.outbound }
      match p with
      | .error f => (.error f, s', [])
      | .ok .connected => (.ok (), { s' with status := .connected, negotiation := none }, [])
      | .ok .credentialsRequested =>
        match s.prompter, s.server with
        | some listener, some server => (.ok (), s', [.prompt listener server])
        | _, _ => (.ok (), s', [])
      | .ok .needMore =>
        if x.inbound.isEmpty ∨ x.inbound.length = s.inbound.length then (.ok (), s', [])
        else s'.advance := by
  rw [Fields.advance]
  split
  · next hnone => cases hn.symm.trans hnone
  · next n' hsome =>
    cases hn.symm.trans hsome
    split
    next p' x' hstep =>
    cases hstep.symm.trans h
    rfl

theorem fields_ofExchange {c : Connection σ} {n : Socks.Negotiation}
    (h : c.phase = .negotiating n) (x : Socks.Exchange) :
    { c.fields with
      negotiation := some x.negotiation, inbound := x.inbound, handshake := x.outbound } =
      ({ c with
        phase := .negotiating x.negotiation, inbound := x.inbound, handshake := x.outbound } :
        Connection σ).fields := by
  unfold fields
  rw [h]
  rfl

theorem fields_advance {c : Connection σ} {n : Socks.Negotiation}
    (hphase : c.phase = .negotiating n) :
    c.fields.advance = (c.advance.1, c.advance.2.1.fields, c.advance.2.2) := by
  have hn : c.fields.negotiation = some n := by
    unfold fields
    rw [hphase]
    rfl
  cases hstep : (Socks.Exchange.mk n c.inbound c.handshake).step c.prompter.isSome with
  | mk p x =>
  rw [Fields.advance_of_step hn hstep, fields_ofExchange hphase, advance, hphase]
  dsimp only
  unfold Socks.Exchange.advance
  rw [hstep]
  cases p with
  | error f => rfl
  | ok progress =>
    cases progress with
    | connected => rfl
    | credentialsRequested =>
      dsimp only
      rw [show c.fields.prompter = c.prompter from rfl, show c.fields.server = c.server from rfl]
      cases c.prompter <;> cases c.server <;> rfl
    | needMore =>
      have hle := Socks.Exchange.length_le_of_step hstep
      have hiff : x.inbound.isEmpty ∨ x.inbound.length = c.fields.inbound.length ↔
          ¬(0 < x.inbound.length ∧ x.inbound.length < c.inbound.length) := by
        rw [ByteQueue.isEmpty_iff, show c.fields.inbound.length = c.inbound.length from rfl]
        dsimp only at hle
        omega
      dsimp only
      by_cases hmore : 0 < x.inbound.length ∧ x.inbound.length < c.inbound.length
      · rw [if_neg fun hstop => hiff.1 hstop hmore, if_pos hmore, fields_advance rfl]
        rfl
      · rw [if_pos (hiff.2 hmore), if_neg hmore]
termination_by c.inbound.length

theorem advance_of_empty {c : Connection σ} (h : c.inbound.isEmpty = true) :
    c.advance = (.ok (), c, []) := by
  cases hphase : c.phase with
  | negotiating n =>
    have hstep : (Socks.Exchange.mk n c.inbound c.handshake).step c.prompter.isSome =
        (.ok .needMore, ⟨n, c.inbound, c.handshake⟩) := by
      rw [Socks.Exchange.step_eq_follow, List.isEmpty_iff.1 h, Socks.Negotiation.react_nil]
      rfl
    unfold advance Socks.Exchange.advance
    rw [hphase]
    dsimp only
    rw [hstep]
    dsimp only
    rw [if_neg fun hmore => Nat.lt_irrefl _ hmore.2, ← hphase]
  | unconnected | connected => exact advance_otherwise fun n hn => nomatch hphase.symm.trans hn

theorem fields_hear (c : Connection σ) :
    (if c.fields.status = .negotiating ∧ !c.fields.inbound.isEmpty then c.fields.advance
      else (.ok (), c.fields, [])) = (c.advance.1, c.advance.2.1.fields, c.advance.2.2) := by
  split
  · next h =>
    cases hphase : c.phase with
    | negotiating n => exact fields_advance hphase
    | unconnected | connected =>
      unfold fields at h
      rw [hphase] at h
      cases h.1
  · next h =>
    -- a negotiation that is shown no bytes waits and changes nothing, so it need not be asked
    have hsilent : c.advance = (.ok (), c, []) := by
      cases hphase : c.phase with
      | negotiating n =>
        refine advance_of_empty ?_
        unfold fields at h
        rw [hphase] at h
        simpa [Phase.status] using h
      | unconnected | connected => exact advance_otherwise fun n hn => nomatch hphase.symm.trans hn
    rw [hsilent]

theorem fields_conclude (c : Connection σ) (result : Except Failure Unit) (waiting : Bool)
    (told : List (Notice σ)) :
    c.fields.conclude result waiting told = (c.finish result waiting told).stored := by
  unfold Fields.conclude finish
  cases result with
  | ok u =>
    dsimp only
    rw [fields_report]
    rfl
  | error f =>
    dsimp only
    rw [show { c.fields with failure := some f } =
      ({ c with failure := some f } : Connection σ).fields from rfl, fields_closeSocket]
    rfl

/-- A negotiation is held ready for the end of a connect if and only if there is a proxy. -/
def Prepared (c : Connection σ) : Prop :=
  ∀ opening, c.phase = .unconnected opening → opening.isSome = c.server.isSome

theorem Sound.prepared {c : Connection σ} (h : c.Sound) (hactive : c.isActive = true) :
    c.Prepared := by
  intro opening hphase
  cases opening with
  | none =>
    rw [h.direct hactive hphase]
    rfl
  | some n =>
    obtain ⟨server, hserver, -⟩ := h.proxied n (by rw [hphase]; rfl)
    rw [hserver]
    rfl

theorem fields_opened {c : Connection σ} {opening : Option Socks.Negotiation} (h : c.Prepared)
    (hphase : c.phase = .unconnected opening) :
    { c.fields with connecting := false, status := c.fields.connectedStatus } =
      ({ c with phase := .opened opening } : Connection σ).fields := by
  have hopening := h opening hphase
  obtain ⟨framing, server, socket, phase, inbound, outbound, handshake, failure, overflowed,
    watcher, prompter⟩ := c
  cases hphase
  cases socket <;> cases opening <;> cases server <;> first | rfl | cases hopening

theorem fields_prepare {c : Connection σ} (machine : Machine σ) (host : String) (port : UInt16)
    (hphase : c.phase = .unconnected none) (hempty : c.handshake.reset = c.handshake) :
    c.fields.prepare machine host port = match c.opening machine host port with
      | .error f => (.error f, ({ c with failure := some f } : Connection σ).fields)
      | .ok (opening, handshake) =>
        (.ok (), ({ c with phase := .unconnected opening, handshake } : Connection σ).fields) := by
  obtain ⟨framing, server, socket, phase, inbound, outbound, handshake, failure, overflowed,
    watcher, prompter⟩ := c
  cases hphase
  unfold Fields.prepare Connection.opening
  cases server with
  | none => rfl
  | some server =>
    dsimp only [fields]
    rw [Socks.Negotiation.run_starting]
    cases Socks.Negotiation.start machine.lookup machine.user server host port prompter.isSome
      handshake with
    | error f =>
      dsimp only
      rw [show handshake.reset = handshake from hempty]
      rfl
    | ok started => rfl

theorem opening_reset {c : Connection σ} {machine : Machine σ} {host : String} {port : UInt16}
    {opening : Option Socks.Negotiation} {handshake : ByteQueue}
    (hempty : c.handshake.reset = c.handshake)
    (h : c.opening machine host port = .ok (opening, handshake)) :
    handshake.reset = c.handshake ∧ opening.isSome = c.server.isSome := by
  rcases opening_eq_ok h with ⟨hserver, rfl, rfl⟩ | ⟨server, n, hserver, rfl, hstart⟩
  · exact ⟨hempty, by rw [hserver]; rfl⟩
  · obtain ⟨frame, -, happend, -⟩ := Socks.Negotiation.start_cases hstart
    have hfits : c.handshake.Fits c.handshake.ceiling := by
      rw [← hempty]
      exact ByteQueue.fits_empty _
    refine ⟨?_, by rw [hserver]; rfl⟩
    rw [ByteQueue.reset, (hfits.append happend).ceiling_eq]
    exact hempty

theorem fields_dial {c : Connection σ} {opening : Option Socks.Negotiation} (machine : Machine σ)
    (bindAddress : Option String) (host : String) (port : UInt16) (hclosed : c.socket = none)
    (hphase : c.phase = .unconnected opening) (hopening : opening.isSome = c.server.isSome) :
    c.fields.dial machine bindAddress host port = match machine.connect bindAddress host port with
      | .error f => (.error f, ({ c with
          phase := .unconnected none
          handshake := c.handshake.reset
          failure := some f } : Connection σ).fields)
      | .ok dialed => (.ok (), ({ c with
          socket := some dialed.socket
          phase := match dialed with
            | .connected _ => .opened opening
            | .inProgress _ => .unconnected opening } : Connection σ).fields) := by
  obtain ⟨framing, server, socket, phase, inbound, outbound, handshake, failure, overflowed,
    watcher, prompter⟩ := c
  cases hclosed
  cases hphase
  unfold Fields.dial
  cases machine.connect bindAddress host port with
  | error f => rfl
  | ok dialed =>
    cases dialed with
    | inProgress s => rfl
    | connected s => cases opening <;> cases server <;> first | rfl | cases hopening

theorem fields_destination (host : String) (port : UInt16) (c : Connection σ) :
    c.fields.destination host port = c.destination host port := by
  unfold Fields.destination destination
  rw [show c.fields.server = c.server from rfl]
  cases c.server <;> rfl

/-- Written in place, with what is taken back when the proxy cannot be asked or not be reached, an
attempt to connect comes to the same as one that writes nothing before it has succeeded. -/
theorem fields_startConnect (machine : Machine σ) (bindAddress : Option String) (host : String)
    (port : UInt16) (c : Connection σ) :
    c.fields.startConnect machine bindAddress host port =
      (c.startConnect machine bindAddress host port).stored := by
  unfold Fields.startConnect startConnect
  rw [fields_shutdown]
  dsimp only
  rw [fields_prepare machine host port rfl rfl, fields_destination]
  cases hopening : c.shutdown.after.opening machine host port with
  | error f => rfl
  | ok prepared =>
    obtain ⟨opening, handshake⟩ := prepared
    -- the queue held nothing but the request, so emptying it is what takes the request back
    obtain ⟨hreset, hsome⟩ := opening_reset rfl hopening
    have hdial := fields_dial (c := { c.shutdown.after with
      phase := .unconnected opening, handshake }) machine bindAddress
      (c.shutdown.after.destination host port).1 (c.shutdown.after.destination host port).2
      rfl rfl hsome
    dsimp only
    rw [hdial]
    cases hdialed : machine.connect bindAddress (c.shutdown.after.destination host port).1
      (c.shutdown.after.destination host port).2 with
    | error f =>
      dsimp only
      rw [hreset]
      rfl
    | ok dialed =>
      dsimp only
      rw [fields_report]
      rfl

variable [Transport σ]

theorem fields_flush (c : Connection σ) : c.fields.flush = (c.flush.1, c.flush.2.fields) := by
  obtain ⟨framing, server, socket, phase, inbound, outbound, handshake, failure, overflowed,
    watcher, prompter⟩ := c
  cases socket with
  | none => rfl
  | some s =>
    cases phase with
    | negotiating n => rfl
    | unconnected | connected => cases overflowed <;> rfl

theorem fields_fill (c : Connection σ) : c.fields.fill = (c.fill.1, c.fill.2.fields) := by
  obtain ⟨framing, server, socket, phase, inbound, outbound, handshake, failure, overflowed,
    watcher, prompter⟩ := c
  cases socket <;> rfl

theorem fields_receive (c : Connection σ) : c.fields.receive = c.receive.stored := by
  rw [receive_eq_finish]
  unfold Fields.receive
  rw [fields_fill]
  dsimp only
  rw [fields_hear]
  dsimp only
  have hconnected (c : Connection σ) : (c.fields.status == .connected) = c.isConnected := by
    unfold fields isConnected
    cases c.phase <;> rfl
  rw [hconnected, fields_conclude]
  rfl

theorem fields_exchange (c : Connection σ) (ready : Readiness) :
    c.fields.exchange ready = (c.exchange ready).stored := by
  have hflush : (if ready.writable then c.fields.flush else (.ok (), c.fields)) =
      ((c.flushIf ready).1, (c.flushIf ready).2.fields) := by
    unfold flushIf
    split
    · exact fields_flush c
    · rfl
  unfold Fields.exchange
  rw [hflush, exchange_eq]
  cases (c.flushIf ready).1 with
  | error f => exact fields_conclude _ _ false []
  | ok u =>
    dsimp only
    split
    · exact fields_receive _
    · exact fields_conclude _ (.ok ()) false []

theorem fields_finishConnect {c : Connection σ} {s : σ} {opening : Option Socks.Negotiation}
    (hphase : c.phase = .unconnected opening)
    (h : (c.finishConnect s opening).answer.failure = none → c.Prepared) :
    c.fields.finishConnect s = (c.finishConnect s opening).stored := by
  unfold Fields.finishConnect
  unfold finishConnect at h ⊢
  dsimp only at h ⊢
  cases he : (Transport.pendingError s).1 with
  | some e =>
    have hclose := fields_conclude { c with socket := some (Transport.pendingError s).2 }
      (.error e.toFailure) false []
    refine Eq.trans ?_ hclose
    unfold fields
    rw [hphase]
    rfl
  | none =>
    rw [he] at h
    have hprepared : Prepared { c with socket := some (Transport.pendingError s).2 } := h rfl
    exact (congrArg (Fields.conclude (.ok ()) false []) (fields_opened hprepared hphase)).trans
      (fields_conclude _ (.ok ()) false [])

/-- A call that fails finds the same fields whatever the connection; one that completes a connect
relies on a negotiation that is ready if and only if there is a proxy. -/
theorem fields_service {c : Connection σ} {ready : Readiness}
    (h : (c.service ready).answer.failure = none → c.isActive = true → c.Prepared) :
    c.fields.service ready = (c.service ready).stored := by
  cases hs : c.socket with
  | none =>
    rw [service_closed hs, Fields.service, show c.fields.socket = none from hs]
    rfl
  | some s =>
    have hprepared := fun hwell => h hwell (isActive_of_socket hs)
    unfold Fields.service
    unfold service at hprepared ⊢
    rw [show c.fields.socket = some s from hs, hs]
    rw [hs] at hprepared
    dsimp only at hprepared ⊢
    cases hf : c.failure with
    | some f =>
      rw [show c.fields.failure = some f from hf, if_pos (by simp)]
      exact fields_conclude c (.error f) false []
    | none =>
      rw [hf] at hprepared
      rw [show c.fields.failure = none from hf]
      dsimp only at hprepared ⊢
      by_cases hex : ready.exceptional = true
      · rw [if_pos (by rw [hex]; rfl), if_pos hex]
        exact fields_conclude { c with socket := some (Transport.pendingError s).2 } (.error _)
          false []
      · rw [if_neg hex] at hprepared
        rw [if_neg (by simpa using hex), if_neg hex]
        cases hphase : c.phase with
        | unconnected opening =>
          rw [hphase] at hprepared
          rw [if_pos (by simp [fields, isActive, hs, hphase, Phase.status])]
          dsimp only at hprepared ⊢
          by_cases hw : ready.writable = true
          · rw [if_pos hw] at hprepared
            rw [if_pos hw, if_pos hw]
            exact fields_finishConnect hphase hprepared
          · rw [if_neg hw, if_neg hw]
            exact fields_conclude c (.ok ()) false []
        | negotiating | connected =>
          rw [if_neg (by simp [fields, hphase, Phase.status])]
          exact fields_exchange c ready

theorem fields_perform {c : Connection σ} (h : c.Sound) (op : Operation σ) :
    c.fields.perform op = (c.perform op).stored := by
  unfold Fields.perform perform
  cases op with
  | queue message =>
    dsimp only
    rw [fields_queue]
    rfl
  | submit user password =>
    dsimp only
    rw [fields_submit]
    rfl
  | service ready =>
    dsimp only
    rw [fields_service fun _ => h.prepared]
    rfl
  | next =>
    dsimp only
    rw [fields_next]
    rfl
  | take n =>
    dsimp only
    rw [fields_take]
    rfl
  | setWatcher listener =>
    dsimp only
    rw [fields_setWatcher]
    rfl
  | setPrompter listener => rfl
  | shutdown =>
    dsimp only
    rw [fields_shutdown]
    rfl
  | adopt socket =>
    dsimp only
    rw [fields_adopt]
    rfl
  | refuse f =>
    dsimp only
    rw [fields_refuse]
    rfl
  | startConnect machine bindAddress host port =>
    dsimp only
    rw [fields_startConnect]
    rfl
  | turn f =>
    have hactive : (c.socket.map f).isSome = c.socket.isSome := Option.isSome_map
    unfold Effect.stored fields isActive
    dsimp only
    rw [hactive]

theorem fields_history {c : Connection σ} (h : c.Sound) (ops : List (Operation σ)) :
    c.fields.history ops = (c.history ops).stored := by
  induction ops generalizing c with
  | nil => rfl
  | cons op ops ih =>
    have hnext : (c.perform op).after.Sound := by
      rw [after_perform]
      exact h.apply op
    unfold Fields.history
    rw [fields_perform h op]
    dsimp only [Effect.stored]
    rw [ih hnext]
    rfl

end Connection

end LineTunnel
