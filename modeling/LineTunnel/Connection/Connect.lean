import LineTunnel.Connection

/-! How a connection gets its socket: a connected one is handed to it, or it starts a connect of
its own, to its proxy if it has one. -/

namespace LineTunnel.Connection

variable {σ : Type}

def adopt (socket : σ) (c : Connection σ) : Effect σ Unit :=
  let ⟨(), c, stopped⟩ := c.shutdown
  let (c, told) := { c with socket := some socket, phase := .connected }.report false
  ⟨(), c, stopped ++ told⟩

/-- A socket that cannot be made to never wait is refused, when the old one is closed already. -/
def refuse (f : Failure) (c : Connection σ) : Effect σ (Except Failure Unit) :=
  let ⟨(), c, stopped⟩ := c.shutdown
  ⟨.error f, c, stopped⟩

def opening (machine : Machine σ) (host : String) (port : UInt16) (c : Connection σ) :
    Except Failure (Option Socks.Negotiation × ByteQueue) :=
  match c.server with
  | none => .ok (none, c.handshake)
  | some server => do
    let (negotiation, handshake) ←
      Socks.Negotiation.start machine.lookup machine.user server host port c.prompter.isSome
        c.handshake
    return (some negotiation, handshake)

def destination (host : String) (port : UInt16) (c : Connection σ) : String × UInt16 :=
  match c.server with
  | none => (host, port)
  | some server => (server.name, server.port)

/-- Starts afresh with a connect to a host and port. The request to a proxy is prepared before any
socket exists, so that a target it cannot carry fails with nothing open. -/
def startConnect (machine : Machine σ) (bindAddress : Option String) (host : String)
    (port : UInt16) (c : Connection σ) : Effect σ (Except Failure Unit) :=
  let ⟨(), c, stopped⟩ := c.shutdown
  let attempt : Except Failure (Connection σ) := do
    let (negotiation, handshake) ← c.opening machine host port
    let (realHost, realPort) := c.destination host port
    let dialed ← machine.connect bindAddress realHost realPort
    let phase := match dialed with
      | .connected _ => .opened negotiation
      | .inProgress _ => .unconnected negotiation
    return { c with socket := some dialed.socket, phase, handshake }
  match attempt with
  | .error f => ⟨.error f, { c with failure := some f }, stopped⟩
  | .ok c =>
    let (c, told) := c.report false
    ⟨.ok (), c, stopped ++ told⟩

end LineTunnel.Connection
