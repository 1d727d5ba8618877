import LineTunnel.Proofs.Connection.History
import LineTunnel.Proofs.Socks.Extension
import LineTunnel.Proofs.Socks.Failing

/-! A connection as it is stored. How far it has come, whether a connect is pending and the
negotiation are three fields here, which a phase takes together, and so are the listener and what
it was told last. Every operation writes the fields one after the other, in place, and takes back
itself what it has written in vain. -/

namespace LineTunnel

namespace Socks.Exchange

theorem length_le_of_step {canPrompt : Bool} {x x' : Exchange} {p : Except Failure Progress}
    (h : x.step canPrompt = (p, x')) : x'.inbound.length ≤ x.inbound.length := by
  rw [step_eq_follow] at h
  have hsuffix := x.follow_suffix (x.negotiation.react canPrompt x.inbound.bytes)
  rw [h] at hsuffix
  exact hsuffix.length_le

end Socks.Exchange

namespace Connection

inductive Status where
  | preConnect
  | negotiating
  | connected
  deriving DecidableEq, Repr

structure Fields (σ : Type) where
  socket : Option σ
  inbound : ByteQueue
  outbound : ByteQueue
  handshake : ByteQueue
  framing : Framing
  status : Status
  connecting : Bool
  server : Option Socks.Server
  negotiation : Option Socks.Negotiation
  failure : Option Failure
  overflowed : Bool
  listener : Option Nat
  reported : Option Readiness
  prompter : Option Nat

variable {σ : Type}

namespace Fields

def create (framing : Framing) (server : Option Socks.Server) : Fields σ where
  socket := none
  inbound := .forReading
  outbound := .forWriting
  handshake := .forWriting
  framing
  status := .preConnect
  connecting := false
  server
  negotiation := none
  failure := none
  overflowed := false
  listener := none
  reported := none
  prompter := none

def isActive (s : Fields σ) : Bool := s.socket.isSome

def awaitingCredentials (s : Fields σ) : Bool := s.negotiation.any (·.awaiting)

def watch (s : Fields σ) : Readiness :=
  if s.socket.isNone then .none
  else
    let writable := s.connecting ||
      (match s.status with
        | .connected => !s.outbound.isEmpty || s.overflowed
        | .negotiating => !s.handshake.isEmpty
        | .preConnect => false) ||
      s.failure.isSome
    { readable := true, writable, exceptional := true }

def connectedStatus (s : Fields σ) : Status :=
  if s.server.isSome then .negotiating else .connected

def report (urgent : Bool) (s : Fields σ) : Fields σ × List (Notice σ) :=
  let watch := s.watch
  if !urgent && s.reported == some watch then (s, [])
  else
    match s.listener with
    | none => (s, [])
    | some listener => ({ s with reported := some watch }, [.watch listener watch urgent])

def stopWatching (s : Fields σ) : Fields σ × List (Notice σ) :=
  let told := match s.listener, s.reported with
    | some listener, some watch => if watch.isEmpty then [] else [.watch listener .none false]
    | _, _ => []
  ({ s with reported := none }, told)

def closeSocket (s : Fields σ) : Fields σ × List (Notice σ) :=
  let (s, told) := s.stopWatching
  let dropped := s.socket
  let s := { s with socket := none }
  let s := { s with connecting := false }
  (s, told ++ dropped.toList.map .closed)

def setWatcher (listener : Nat) (s : Fields σ) : Fields σ × List (Notice σ) :=
  let (s, stopped) := s.stopWatching
  let s := { s with listener := some listener }
  let (s, told) := s.report false
  (s, stopped ++ told)

def setPrompter (listener : Nat) (s : Fields σ) : Fields σ := { s with prompter := some listener }

def shutdown (s : Fields σ) : Fields σ × List (Notice σ) :=
  let (s, told) := s.closeSocket
  let s := { s with inbound := s.inbound.reset }
  let s := { s with outbound := s.outbound.reset }
  let s := { s with handshake := s.handshake.reset }
  let s := { s with failure := none }
  let s := { s with negotiation := none }
  let s := { s with status := .preConnect }
  let s := { s with overflowed := false }
  (s, told)

/-- The socket comes with what became of the attempt to make it never wait. -/
def adopt (socket : Except Failure σ) (s : Fields σ) :
    Except Failure Unit × Fields σ × List (Notice σ) :=
  let (s, stopped) := s.shutdown
  match socket with
  | .error f => (.error f, s, stopped)
  | .ok socket =>
    let s := { s with socket := some socket }
    let s := { s with status := .connected }
    let (s, told) := s.report false
    (.ok (), s, stopped ++ told)

def destination (host : String) (port : UInt16) (s : Fields σ) : String × UInt16 :=
  match s.server with
  | some server => (server.name, server.port)
  | none => (host, port)

/-- Prepares the negotiation with the proxy, if there is one. A request that cannot be made may
leave the queue half written, so the queue is emptied then. -/
def prepare (machine : Machine σ) (host : String) (port : UInt16) (s : Fields σ) :
    Except Failure Unit × Fields σ :=
  match s.server with
  | none => (.ok (), s)
  | some server =>
    let (result, handshake) := (Socks.Negotiation.starting machine.lookup machine.user server host
      port s.prompter.isSome).run s.handshake
    let s := { s with handshake }
    match result with
    | .ok negotiation => (.ok (), { s with negotiation := some negotiation })
    | .error f =>
      let s := { s with handshake := s.handshake.reset }
      (.error f, { s with failure := some f })

def dial (machine : Machine σ) (bindAddress : Option String) (host : String) (port : UInt16)
    (s : Fields σ) : Except Failure Unit × Fields σ :=
  match machine.connect bindAddress host port with
  | .error f =>
    let s := { s with negotiation := none }
    let s := { s with handshake := s.handshake.reset }
    (.error f, { s with failure := some f })
  | .ok (.connected socket) =>
    let s := { s with socket := some socket }
    (.ok (), { s with status := s.connectedStatus })
  | .ok (.inProgress socket) =>
    let s := { s with socket := some socket }
    (.ok (), { s with connecting := true })

def startConnect (machine : Machine σ) (bindAddress : Option String) (host : String)
    (port : UInt16) (s : Fields σ) : Except Failure Unit × Fields σ × List (Notice σ) :=
  let (s, stopped) := s.shutdown
  let (realHost, realPort) := s.destination host port
  let (prepared, s) := s.prepare machine host port
  match prepared with
  | .error f => (.error f, s, stopped)
  | .ok () =>
    let (dialed, s) := s.dial machine bindAddress realHost realPort
    match dialed with
    | .error f => (.error f, s, stopped)
    | .ok () =>
      let (s, told) := s.report false
      (.ok (), s, stopped ++ told)

def advance (s : Fields σ) : Except Failure Unit × Fields σ × List (Notice σ) :=
  match s.negotiation with
  | none => (.ok (), s, [])
  | some negotiation =>
    let before := s.inbound.length
    match _hstep : (Socks.Exchange.mk negotiation s.inbound s.handshake).step
      s.prompter.isSome with
    | (progress, x) =>
      let s := { s with
        negotiation := some x.negotiation, inbound := x.inbound, handshake := x.outbound }
      match progress with
      | .error f => (.error f, s, [])
      | .ok .connected =>
        let s := { s with status := .connected }
        (.ok (), { s with negotiation := none }, [])
      | .ok .credentialsRequested =>
        match s.prompter, s.server with
        | some listener, some server => (.ok (), s, [.prompt listener server])
        | _, _ => (.ok (), s, [])
      | .ok .needMore =>
        if s.inbound.isEmpty ∨ s.inbound.length = before then (.ok (), s, []) else s.advance
termination_by s.inbound.length
decreasing_by
  next hmore =>
    exact Nat.lt_of_le_of_ne (Socks.Exchange.length_le_of_step _hstep) fun h => hmore (.inr h)

def queue (message : Bytes) (s : Fields σ) : Except Failure Unit × Fields σ × List (Notice σ) :=
  let wasEmpty := s.outbound.isEmpty
  match s.outbound.append (s.framing.encode message) with
  | .ok outbound =>
    let s := { s with outbound }
    let (s, told) := if wasEmpty then s.report false else (s, [])
    (.ok (), s, told)
  | .error f =>
    let s := { s with overflowed := true }
    let (s, told) := s.report false
    (.error f, s, told)

def next (s : Fields σ) : Option Bytes × Fields σ :=
  if s.status ≠ .connected then (none, s)
  else
    match s.framing.first? s.inbound.bytes with
    | none => (none, s)
    | some (message, n) => (some message, { s with inbound := s.inbound.discard n })

def take (n : Nat) (s : Fields σ) : Option Bytes × Fields σ :=
  match s.inbound.consume n with
  | none => (none, s)
  | some (bs, inbound) => (some bs, { s with inbound })

def submit (user password : String) (s : Fields σ) :
    Except Failure Unit × Fields σ × List (Notice σ) :=
  let (result, s) := match s.negotiation with
    | some negotiation =>
      let (result, x) :=
        (Socks.Exchange.mk negotiation s.inbound s.handshake).submit user password
      (result, { s with negotiation := some x.negotiation, handshake := x.outbound })
    | none => (.error (.socks .notAwaitingCredentials), s)
  match result with
  | .ok () =>
    let (s, told) := s.report false
    (.ok (), s, told)
  | .error (.socks .notAwaitingCredentials) => (.error (.socks .notAwaitingCredentials), s, [])
  | .error f =>
    let s := { s with failure := some f }
    let (s, told) := s.report true
    (.error f, s, told)

def conclude (result : Except Failure Unit) (dataWaiting : Bool) (told : List (Notice σ))
    (s : Fields σ) : Outcome × Fields σ × List (Notice σ) :=
  match result with
  | .error f =>
    let s := { s with failure := some f }
    let (s, closed) := s.closeSocket
    ({ dataWaiting, failure := some f }, s, told ++ closed)
  | .ok () =>
    let (s, reported) := s.report false
    ({ dataWaiting }, s, told ++ reported)

variable [Transport σ]

def flush (s : Fields σ) : Except Failure Unit × Fields σ :=
  match s.socket with
  | none => (.ok (), s)
  | some socket =>
    match s.status with
    | .negotiating =>
      let (result, socket, handshake) := Transport.drain socket s.handshake
      (result, { s with socket := some socket, handshake })
    | _ =>
      if s.overflowed then (.error (.link .bufferFull), s)
      else
        let (result, socket, outbound) := Transport.drain socket s.outbound
        (result, { s with socket := some socket, outbound })

def fill (s : Fields σ) : Except Failure Unit × Fields σ :=
  match s.socket with
  | none => (.ok (), s)
  | some socket =>
    let (result, socket, inbound) := Transport.fill socket s.inbound
    (result, { s with socket := some socket, inbound })

def receive (s : Fields σ) : Outcome × Fields σ × List (Notice σ) :=
  let (read, s) := s.fill
  let (verdict, s, told) :=
    if s.status = .negotiating ∧ !s.inbound.isEmpty then s.advance else (.ok (), s, [])
  let dataWaiting := s.status == .connected && !s.inbound.isEmpty
  s.conclude (verdict.bind fun _ => read) dataWaiting told

def exchange (ready : Readiness) (s : Fields σ) : Outcome × Fields σ × List (Notice σ) :=
  let (sent, s) := if ready.writable then s.flush else (.ok (), s)
  match sent with
  | .error f => s.conclude (.error f) false []
  | .ok () => if ready.readable then s.receive else s.conclude (.ok ()) false []

def finishConnect (socket : σ) (s : Fields σ) : Outcome × Fields σ × List (Notice σ) :=
  let s := { s with connecting := false }
  let (error, socket) := Transport.pendingError socket
  let s := { s with socket := some socket }
  match error with
  | some e =>
    let s := { s with status := .preConnect }
    s.conclude (.error e.toFailure) false []
  | none =>
    let s := { s with status := s.connectedStatus }
    s.conclude (.ok ()) false []

def service (ready : Readiness) (s : Fields σ) : Outcome × Fields σ × List (Notice σ) :=
  match s.socket with
  | none => ({}, s, [])
  | some socket =>
    if ready.exceptional || s.failure.isSome then
      match s.failure with
      | some f => s.conclude (.error f) false []
      | none =>
        let (error, socket) := Transport.pendingError socket
        let s := { s with socket := some socket }
        let f := (error.map StreamError.toFailure).getD (.link .socketException)
        s.conclude (.error f) false []
    else if s.connecting then
      if ready.writable then s.finishConnect socket else s.conclude (.ok ()) false []
    else s.exchange ready

def perform (s : Fields σ) : Operation σ → Answer × Fields σ × List (Notice σ)
  | .queue message => (s.queue message).map .result id
  | .submit user password => (s.submit user password).map .result id
  | .service ready => (s.service ready).map .outcome id
  | .next => (.bytes s.next.1, s.next.2, [])
  | .take n => (.bytes (s.take n).1, (s.take n).2, [])
  | .setWatcher listener => (.done, s.setWatcher listener)
  | .setPrompter listener => (.done, s.setPrompter listener, [])
  | .shutdown => (.done, s.shutdown)
  | .adopt socket => (s.adopt (.ok socket)).map .result id
  | .refuse f => (s.adopt (.error f)).map .result id
  | .startConnect machine bindAddress host port =>
    (s.startConnect machine bindAddress host port).map .result id
  | .turn f => (.done, { s with socket := s.socket.map f }, [])

def history (s : Fields σ) : List (Operation σ) → List Answer × Fields σ × List (Notice σ)
  | [] => ([], s, [])
  | op :: ops =>
    let (answer, s, told) := s.perform op
    let (answers, s, told') := s.history ops
    (answer :: answers, s, told ++ told')

end Fields

end Connection

end LineTunnel
