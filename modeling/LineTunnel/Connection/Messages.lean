import LineTunnel.Connection

/-! Messages in and out of a connection, raw bytes for whoever reads them another way, and the
credentials that a proxy has asked for. -/

namespace LineTunnel.Connection

variable {σ : Type}

/-- Queues a message. One that does not fit is dropped, and the next attempt to send ends the
connection with the same failure: a stream with a message missing cannot go on. -/
def queue (message : Bytes) (c : Connection σ) : Effect σ (Except Failure Unit) :=
  match c.outbound.append (c.framing.encode message) with
  | .ok outbound =>
    let wasEmpty := c.outbound.isEmpty
    let c := { c with outbound }
    let (c, told) := if wasEmpty then c.report false else (c, [])
    ⟨.ok (), c, told⟩
  | .error f =>
    let (c, told) := { c with overflowed := true }.report false
    ⟨.error f, c, told⟩

def next (c : Connection σ) : Option Bytes × Connection σ :=
  if c.isConnected then
    match c.framing.first? c.inbound.bytes with
    | none => (none, c)
    | some (message, n) => (some message, { c with inbound := c.inbound.discard n })
  else (none, c)

def pending (c : Connection σ) : Nat :=
  if c.isConnected then c.inbound.count c.framing.terminator else 0

def take (n : Nat) (c : Connection σ) : Option Bytes × Connection σ :=
  match c.inbound.consume n with
  | none => (none, c)
  | some (bs, inbound) => (some bs, { c with inbound })

def peek (n : Nat) (c : Connection σ) : Option Bytes := c.inbound.peek n

/-- Answers a proxy that has asked for credentials. Anything wrong with the answer is a failure of
the connection, to be acted on at once; to answer unasked is not. -/
def submit (user password : String) (c : Connection σ) : Effect σ (Except Failure Unit) :=
  let result : Except Failure Unit × Connection σ := match c.phase.negotiation? with
    | none => (.error (.socks .notAwaitingCredentials), c)
    | some negotiation =>
      let (result, x) := (Socks.Exchange.mk negotiation c.inbound c.handshake).submit user password
      (result, { c with phase := c.phase.withNegotiation x.negotiation, handshake := x.outbound })
  match result with
  | (.ok (), c) =>
    let (c, told) := c.report false
    ⟨.ok (), c, told⟩
  | (.error f, c) =>
    if f = .socks .notAwaitingCredentials then ⟨.error f, c, []⟩
    else
      let (c, told) := { c with failure := some f }.report true
      ⟨.error f, c, told⟩

end LineTunnel.Connection
