import LineTunnel.Connection
import LineTunnel.Transport

/-! What a connection does when its socket is ready: it completes the connect, sends, reads, and
carries the negotiation on. A failure closes the socket and is reported by this one call. -/

namespace LineTunnel

/-- What a service call reports. Data may wait even on a connection that has just failed, so that
the last messages can be taken. -/
structure Outcome where
  dataWaiting : Bool := false
  failure : Option Failure := none
  deriving DecidableEq, Repr

namespace Connection

variable {σ : Type}

def settle (c : Connection σ) (dataWaiting : Bool) (told : List (Notice σ)) : Effect σ Outcome :=
  let (c, reported) := c.report false
  ⟨{ dataWaiting }, c, told ++ reported⟩

def fail (c : Connection σ) (f : Failure) (dataWaiting : Bool) (told : List (Notice σ)) :
    Effect σ Outcome :=
  let (c, closed) := { c with failure := some f }.closeSocket
  ⟨{ dataWaiting, failure := some f }, c, told ++ closed⟩

def advance (c : Connection σ) : Except Failure Unit × Connection σ × List (Notice σ) :=
  match c.phase with
  | .negotiating negotiation =>
    let (progress, x) :=
      (Socks.Exchange.mk negotiation c.inbound c.handshake).advance c.prompter.isSome
    let c := { c with
      phase := .negotiating x.negotiation, inbound := x.inbound, handshake := x.outbound }
    match progress with
    | .error f => (.error f, c, [])
    | .ok .connected => (.ok (), { c with phase := .connected }, [])
    | .ok .credentialsRequested =>
      match c.prompter, c.server with
      | some listener, some server => (.ok (), c, [.prompt listener server])
      | _, _ => (.ok (), c, [])
    | .ok .needMore => (.ok (), c, [])
  | _ => (.ok (), c, [])

variable [Transport σ]

/-- Sends what the phase allows: requests to the proxy, or messages. After a message was dropped
none may follow it. -/
def flush (c : Connection σ) : Except Failure Unit × Connection σ :=
  match c.socket, c.phase with
  | none, _ => (.ok (), c)
  | some s, .negotiating _ =>
    let (result, s, handshake) := Transport.drain s c.handshake
    (result, { c with socket := some s, handshake })
  | some s, _ =>
    if c.overflowed then (.error (.link .bufferFull), c)
    else
      let (result, s, outbound) := Transport.drain s c.outbound
      (result, { c with socket := some s, outbound })

def fill (c : Connection σ) : Except Failure Unit × Connection σ :=
  match c.socket with
  | none => (.ok (), c)
  | some s =>
    let (result, s, inbound) := Transport.fill s c.inbound
    (result, { c with socket := some s, inbound })

/-- Reads, and carries a negotiation on. A proxy may answer and close in one go, so its verdict
wins over a failure of the read. -/
def receive (c : Connection σ) : Effect σ Outcome :=
  let (read, c) := c.fill
  let (verdict, c, told) := c.advance
  let waiting := c.isConnected && !c.inbound.isEmpty
  match verdict, read with
  | .error f, _ => c.fail f waiting told
  | .ok (), .error f => c.fail f waiting told
  | .ok (), .ok () => c.settle waiting told

def exchange (ready : Readiness) (c : Connection σ) : Effect σ Outcome :=
  let (sent, c) := if ready.writable then c.flush else (.ok (), c)
  match sent with
  | .error f => c.fail f false []
  | .ok () => if ready.readable then c.receive else c.settle false []

def finishConnect (s : σ) (opening : Option Socks.Negotiation) (c : Connection σ) :
    Effect σ Outcome :=
  let (error, s) := Transport.pendingError s
  let c := { c with socket := some s }
  match error with
  | some e => c.fail e.toFailure false []
  | none => { c with phase := .opened opening }.settle false []

/-- Acts on what the socket is ready for. A failure that is already known comes first, then an
exceptional condition of the socket. -/
def service (ready : Readiness) (c : Connection σ) : Effect σ Outcome :=
  match c.socket, c.failure with
  | none, _ => ⟨{}, c, []⟩
  | some _, some f => c.fail f false []
  | some s, none =>
    if ready.exceptional then
      let (error, s) := Transport.pendingError s
      let f := (error.map StreamError.toFailure).getD (.link .socketException)
      { c with socket := some s }.fail f false []
    else
      match c.phase with
      | .unconnected opening =>
        if ready.writable then c.finishConnect s opening else c.settle false []
      | _ => c.exchange ready

end Connection

end LineTunnel
