import LineTunnel.Connection.Connect
import LineTunnel.Proofs.Connection.Run

/-! How a run begins: a connection is handed a socket, or it begins a connect, to its proxy if it
has one. All queues are empty then, but for the opening request to the proxy. -/

namespace LineTunnel

variable {σ : Type}

namespace Socks

theorem start_eq_ok {lookup : NameLookup} {me : LocalUser} {server : Server} {host : String}
    {port : UInt16} {offer : Bool} {out out' : ByteQueue} {n : Negotiation}
    (h : Negotiation.start lookup me server host port offer out = .ok (n, out')) :
    n.stage.version = server.version ∧ (∀ canPrompt, Heard canPrompt n.stage []) ∧
      ∃ frame, openingRequest lookup me server host port offer = .ok frame ∧
        out'.bytes = out.bytes ++ frame := by
  obtain ⟨frame, hframe, hout, hcases⟩ := Negotiation.start_cases h
  have hbytes := ByteQueue.bytes_append hout
  rcases hcases with ⟨hversion, rfl⟩ | ⟨hversion, rfl⟩
  · exact ⟨hversion.symm, fun _ => .methods, frame, hframe, hbytes⟩
  · exact ⟨hversion.symm, fun _ => .v4, frame, hframe, hbytes⟩

end Socks

def Machine.recorded (machine : Machine σ) : Machine (Recorded σ) where
  lookup := machine.lookup
  user := machine.user
  bind := machine.bind
  dial near remote port := (machine.dial near remote port).map fun
    | .connected stream => .connected { stream }
    | .inProgress stream => .inProgress { stream }

theorem Machine.recorded_connect_eq_ok {machine : Machine σ} {bindAddress : Option String}
    {host : String} {port : UInt16} {dialed : Dialed (Recorded σ)}
    (h : machine.recorded.connect bindAddress host port = .ok dialed) :
    ∃ stream, dialed.socket = { stream } := by
  -- whether or not the socket is bound first, the last step is to dial
  have hdial : ∀ {near remote}, machine.recorded.dial near remote port = .ok dialed →
      ∃ stream, dialed.socket = { stream } := by
    intro near remote h
    change (machine.dial near remote port).map _ = _ at h
    cases hd : machine.dial near remote port with
    | error f =>
      rw [hd] at h
      cases h
    | ok d =>
      rw [hd] at h
      cases h
      cases d with
      | connected stream => exact ⟨stream, rfl⟩
      | inProgress stream => exact ⟨stream, rfl⟩
  unfold connect at h
  obtain ⟨remote, -, hrest⟩ := exists_of_bind_eq_ok h
  split at hrest
  · exact hdial hrest
  · obtain ⟨near, -, hbind⟩ := exists_of_bind_eq_ok hrest
    obtain ⟨-, -, hrest⟩ := exists_of_bind_eq_ok hbind
    exact hdial hrest

namespace Connection

theorem shutdown_eq (c : Connection σ) : ∃ watcher told, c.shutdown = ⟨(), { c with
    watcher
    socket := none
    phase := .unconnected none
    inbound := c.inbound.reset
    outbound := c.outbound.reset
    handshake := c.handshake.reset
    failure := none
    overflowed := false }, told⟩ := by
  obtain ⟨watcher, told, -, hclose⟩ := c.closeSocket_eq
  refine ⟨watcher, told, ?_⟩
  unfold shutdown
  rw [hclose]

theorem adopt_eq (socket : σ) (c : Connection σ) :
    ∃ watcher told, c.adopt socket = ⟨(), { c with
      watcher
      socket := some socket
      phase := .connected
      inbound := c.inbound.reset
      outbound := c.outbound.reset
      handshake := c.handshake.reset
      failure := none
      overflowed := false }, told⟩ := by
  obtain ⟨watcher, stopped, hshutdown⟩ := c.shutdown_eq
  unfold adopt
  rw [hshutdown]
  dsimp only
  obtain ⟨watcher', told, -, hreport⟩ := ({ c with
    watcher
    socket := some socket
    phase := .connected
    inbound := c.inbound.reset
    outbound := c.outbound.reset
    handshake := c.handshake.reset
    failure := none
    overflowed := false } : Connection σ).report_eq false
  rw [hreport]
  exact ⟨watcher', stopped ++ told, rfl⟩

theorem opening_eq_ok {machine : Machine σ} {host : String} {port : UInt16} {c : Connection σ}
    {opening : Option Socks.Negotiation} {handshake : ByteQueue}
    (h : c.opening machine host port = .ok (opening, handshake)) :
    c.server = none ∧ opening = none ∧ handshake = c.handshake ∨
      ∃ server n, c.server = some server ∧ opening = some n ∧
        Socks.Negotiation.start machine.lookup machine.user server host port c.prompter.isSome
          c.handshake = .ok (n, handshake) := by
  unfold Connection.opening at h
  split at h
  · next hserver =>
    cases h
    exact .inl ⟨hserver, rfl, rfl⟩
  · next server hserver =>
    obtain ⟨⟨n, out⟩, hstart, hok⟩ := exists_of_bind_eq_ok h
    cases hok
    exact .inr ⟨server, n, hserver, rfl, hstart⟩

theorem startConnect_eq_ok {machine : Machine σ} {bindAddress : Option String} {host : String}
    {port : UInt16} {c : Connection σ}
    (h : (c.startConnect machine bindAddress host port).answer = .ok ()) :
    ∃ watcher opening phase handshake dialed realHost realPort,
      machine.connect bindAddress realHost realPort = .ok dialed ∧
      (phase = .opened opening ∨ phase = .unconnected opening) ∧
      (c.server = none ∧ opening = none ∧ handshake = c.handshake.reset ∨
        ∃ server n, c.server = some server ∧ opening = some n ∧
          Socks.Negotiation.start machine.lookup machine.user server host port
            c.prompter.isSome c.handshake.reset = .ok (n, handshake)) ∧
      (c.startConnect machine bindAddress host port).after = { c with
        watcher
        socket := some dialed.socket
        phase
        inbound := c.inbound.reset
        outbound := c.outbound.reset
        handshake
        failure := none
        overflowed := false } := by
  obtain ⟨watcher, stopped, hshutdown⟩ := c.shutdown_eq
  unfold startConnect at h ⊢
  rw [hshutdown] at h ⊢
  dsimp only at h ⊢
  split at h
  · cases h
  · next c' hattempt =>
    obtain ⟨⟨opening, handshake⟩, hopening, hrest⟩ := exists_of_bind_eq_ok hattempt
    obtain ⟨dialed, hdialed, hok⟩ := exists_of_bind_eq_ok hrest
    cases hok
    dsimp only
    have hcases := opening_eq_ok hopening
    obtain ⟨watcher', told, -, hreport⟩ := Connection.report_eq _ false
    rw [hreport]
    refine ⟨watcher', opening, _, handshake, dialed, _, _, hdialed, ?_, hcases, rfl⟩
    cases dialed with
    | connected s => exact .inl rfl
    | inProgress s => exact .inr rfl

theorem startConnect_eq_error {machine : Machine σ} {bindAddress : Option String} {host : String}
    {port : UInt16} {c : Connection σ} {f : Failure}
    (h : (c.startConnect machine bindAddress host port).answer = .error f) :
    ∃ watcher, (c.startConnect machine bindAddress host port).after = { c with
      watcher
      socket := none
      phase := .unconnected none
      inbound := c.inbound.reset
      outbound := c.outbound.reset
      handshake := c.handshake.reset
      failure := some f
      overflowed := false } := by
  obtain ⟨watcher, stopped, hshutdown⟩ := c.shutdown_eq
  unfold startConnect at h ⊢
  rw [hshutdown] at h ⊢
  dsimp only at h ⊢
  split at h
  · cases h
    exact ⟨watcher, rfl⟩
  · cases h

end Connection

namespace Run

def adopt (stream : σ) (c : Connection (Recorded σ)) : Run σ where
  connection := (c.adopt { stream }).after
  socket := { stream }

def openingRequest (machine : Machine σ) (host : String) (port : UInt16)
    (c : Connection (Recorded σ)) : Bytes :=
  match c.server with
  | none => []
  | some server =>
    (Socks.openingRequest machine.lookup machine.user server host port
      c.prompter.isSome).toOption.getD []

def dial (machine : Machine σ) (bindAddress : Option String) (host : String) (port : UInt16)
    (c : Connection (Recorded σ)) : Option (Run σ) :=
  let e := c.startConnect machine.recorded bindAddress host port
  match e.answer, e.after.socket with
  | .ok (), some socket =>
    some ⟨e.after, socket, .ofRequest (openingRequest machine host port c)⟩
  | _, _ => none

inductive Begun : Bool → Run σ → Prop
  | adopted (stream : σ) (c : Connection (Recorded σ)) : Begun false (adopt stream c)
  | dialed {machine : Machine σ} {bindAddress : Option String} {host : String} {port : UInt16}
      {c : Connection (Recorded σ)} {r : Run σ} : dial machine bindAddress host port c = some r →
      Begun c.server.isSome r

structure Fresh (r : Run σ) : Prop where
  tied : r.Tied
  accepted : r.socket.accepted = []
  outbound : r.connection.outbound.bytes = []
  handshake : r.connection.handshake.bytes = r.log.requests
  overflowed : r.connection.overflowed = false
  messages : r.log.accepted = []
  output : r.log.output = []
  hasDrop : r.log.hasDrop = false
  received : ∀ raw message, Event.received raw message ∉ r.log

theorem fresh_adopt (stream : σ) (c : Connection (Recorded σ)) : (adopt stream c).Fresh := by
  obtain ⟨watcher, told, hadopt⟩ := c.adopt_eq { stream }
  unfold adopt
  rw [hadopt]
  exact ⟨fun s hs => Option.some.inj hs, rfl, rfl, rfl, rfl, rfl, rfl, rfl, nofun⟩

theorem dial_isSome_iff (machine : Machine σ) (bindAddress : Option String) (host : String)
    (port : UInt16) (c : Connection (Recorded σ)) :
    (dial machine bindAddress host port c).isSome = true ↔
      (c.startConnect machine.recorded bindAddress host port).answer = .ok () := by
  unfold dial
  dsimp only
  constructor
  · intro h
    split at h
    · next hanswer hsocket => exact hanswer
    · cases h
  · intro h
    obtain ⟨watcher, opening, phase, handshake, dialed, realHost, realPort, -, -, -, hafter⟩ :=
      Connection.startConnect_eq_ok h
    rw [h, hafter]
    rfl

theorem dial_eq_some {machine : Machine σ} {bindAddress : Option String} {host : String}
    {port : UInt16} {c : Connection (Recorded σ)} {r : Run σ}
    (h : dial machine bindAddress host port c = some r) :
    ∃ stream watcher opening phase handshake,
      r = ⟨{ c with
        watcher
        socket := some { stream }
        phase
        inbound := c.inbound.reset
        outbound := c.outbound.reset
        handshake
        failure := none
        overflowed := false }, { stream }, .ofRequest (openingRequest machine host port c)⟩ ∧
      (phase = .opened opening ∨ phase = .unconnected opening) ∧
      handshake.bytes = openingRequest machine host port c ∧
      (c.server = none ∧ opening = none ∨
        ∃ server n, c.server = some server ∧ opening = some n ∧
          n.stage.version = server.version ∧ ∀ canPrompt, Socks.Heard canPrompt n.stage []) := by
  have hanswer := (dial_isSome_iff machine bindAddress host port c).1 (by rw [h]; rfl)
  obtain ⟨watcher, opening, phase, handshake, dialed, realHost, realPort, hdialed, hphase, hcases,
    hafter⟩ := Connection.startConnect_eq_ok hanswer
  obtain ⟨stream, hstream⟩ := Machine.recorded_connect_eq_ok hdialed
  unfold dial at h
  dsimp only at h
  rw [hanswer, hafter, hstream] at h
  cases h
  refine ⟨stream, watcher, opening, phase, handshake, rfl, hphase, ?_⟩
  unfold openingRequest
  rcases hcases with ⟨hserver, hnone, rfl⟩ | ⟨server, n, hserver, hsome, hstart⟩
  · rw [hserver]
    exact ⟨rfl, .inl ⟨rfl, hnone⟩⟩
  · obtain ⟨hversion, hheard, frame, hframe, hbytes⟩ := Socks.start_eq_ok hstart
    change Socks.openingRequest machine.lookup machine.user server host port
      c.prompter.isSome = .ok frame at hframe
    rw [hserver]
    dsimp only
    rw [hframe, hbytes]
    exact ⟨rfl, .inr ⟨server, n, rfl, hsome, hversion, hheard⟩⟩

theorem fresh_dial {machine : Machine σ} {bindAddress : Option String} {host : String}
    {port : UInt16} {c : Connection (Recorded σ)} {r : Run σ}
    (h : dial machine bindAddress host port c = some r) : r.Fresh := by
  obtain ⟨stream, watcher, opening, phase, handshake, rfl, -, hbytes, -⟩ := dial_eq_some h
  exact {
    tied := fun s hs => Option.some.inj hs
    accepted := rfl
    outbound := rfl
    handshake := by rw [Log.requests_ofRequest, hbytes]
    overflowed := rfl
    messages := Log.accepted_ofRequest _
    output := Log.output_ofRequest _
    hasDrop := Log.hasDrop_ofRequest _
    received := Log.received_notMem_ofRequest _ }

theorem Begun.fresh {proxied : Bool} {r : Run σ} (h : Begun proxied r) : r.Fresh := by
  cases h with
  | adopted stream c => exact fresh_adopt stream c
  | dialed h => exact fresh_dial h

theorem Begun.direct {proxied : Bool} {r : Run σ} (h : Begun proxied r)
    (hproxied : proxied = false) :
    r.connection.phase.negotiation? = none ∧ r.log.requests = [] := by
  cases h with
  | adopted stream c =>
    obtain ⟨watcher, told, hadopt⟩ := c.adopt_eq { stream }
    unfold adopt
    rw [hadopt]
    exact ⟨rfl, rfl⟩
  | dialed h =>
    obtain ⟨stream, watcher, opening, phase, handshake, rfl, hphase, -, hcases⟩ := dial_eq_some h
    rcases hcases with ⟨hserver, rfl⟩ | ⟨server, n, hserver, -⟩
    · refine ⟨?_, ?_⟩
      · rcases hphase with rfl | rfl <;> rfl
      · unfold openingRequest
        rw [hserver]
        rfl
    · rw [hserver] at hproxied
      cases hproxied

end Run

end LineTunnel
