import LineTunnel.Framing
import LineTunnel.Readiness
import LineTunnel.Socks.Negotiation

/-! A connection that carries messages, directly or through a SOCKS proxy. It never waits: its
owner watches the socket for the conditions that it reports and lets it work when one is met. What
it tells its owner meanwhile are notices, in the order in which they are given. -/

namespace LineTunnel

inductive Phase where
  /-- No connect has completed. While a socket is open, one is under way; the negotiation that
  will follow it, if there is a proxy, is held ready. -/
  | unconnected (opening : Option Socks.Negotiation)
  | negotiating (negotiation : Socks.Negotiation)
  | connected
  deriving DecidableEq, Repr

namespace Phase

def negotiation? : Phase → Option Socks.Negotiation
  | unconnected opening => opening
  | negotiating negotiation => some negotiation
  | connected => none

def withNegotiation (negotiation : Socks.Negotiation) : Phase → Phase
  | unconnected none => unconnected none
  | unconnected (some _) => unconnected (some negotiation)
  | negotiating _ => negotiating negotiation
  | connected => connected

def opened : Option Socks.Negotiation → Phase
  | none => connected
  | some negotiation => negotiating negotiation

end Phase

structure Watcher where
  listener : Nat
  reported : Option Readiness := none
  deriving DecidableEq, Repr

structure Connection (σ : Type) where
  framing : Framing
  server : Option Socks.Server
  socket : Option σ
  phase : Phase
  inbound : ByteQueue
  outbound : ByteQueue
  handshake : ByteQueue
  failure : Option Failure
  overflowed : Bool
  watcher : Option Watcher
  prompter : Option Nat
  deriving DecidableEq, Repr

inductive Notice (σ : Type) where
  | watch (listener : Nat) (ready : Readiness) (urgent : Bool)
  | prompt (listener : Nat) (server : Socks.Server)
  /-- The socket was closed in this state. -/
  | closed (socket : σ)
  deriving DecidableEq, Repr

structure Effect (σ α : Type) where
  answer : α
  after : Connection σ
  notices : List (Notice σ)

namespace Connection

variable {σ : Type}

def create (framing : Framing) (server : Option Socks.Server) : Connection σ where
  framing
  server
  socket := none
  phase := .unconnected none
  inbound := .forReading
  outbound := .forWriting
  handshake := .forWriting
  failure := none
  overflowed := false
  watcher := none
  prompter := none

def isActive (c : Connection σ) : Bool := c.socket.isSome

def isConnected (c : Connection σ) : Bool := c.phase == .connected

def stage (c : Connection σ) : Option Socks.Stage := c.phase.negotiation?.map (·.stage)

def awaitingCredentials (c : Connection σ) : Bool := c.phase.negotiation?.any (·.awaiting)

/-- The conditions to watch: with a socket always input and errors, and output when there is
something to send, a connect to complete or a failure to act on. -/
def watch (c : Connection σ) : Readiness :=
  if c.isActive then
    { readable := true
      writable := c.failure.isSome || match c.phase with
        | .unconnected _ => true
        | .negotiating _ => !c.handshake.isEmpty
        | .connected => !c.outbound.isEmpty || c.overflowed
      exceptional := true }
  else .none

def interest (c : Connection σ) : Option PollEvents :=
  if c.watch.isEmpty then none else some (.ofReadiness c.watch)

def report (c : Connection σ) (urgent : Bool) : Connection σ × List (Notice σ) :=
  match c.watcher with
  | none => (c, [])
  | some w =>
    if !urgent && w.reported == some c.watch then (c, [])
    else
      ({ c with watcher := some { w with reported := some c.watch } },
        [.watch w.listener c.watch urgent])

def stopWatching (c : Connection σ) : Connection σ × List (Notice σ) :=
  match c.watcher with
  | none => (c, [])
  | some w =>
    ({ c with watcher := some { w with reported := none } },
      if w.reported.any (!·.isEmpty) then [.watch w.listener .none false] else [])

def closeSocket (c : Connection σ) : Connection σ × List (Notice σ) :=
  let (c, told) := c.stopWatching
  ({ c with socket := none }, told ++ c.socket.toList.map .closed)

def setWatcher (listener : Nat) (c : Connection σ) : Effect σ Unit :=
  let (c, stopped) := c.stopWatching
  let (c, told) := { c with watcher := some { listener } }.report false
  ⟨(), c, stopped ++ told⟩

def setPrompter (listener : Nat) (c : Connection σ) : Connection σ :=
  { c with prompter := some listener }

def shutdown (c : Connection σ) : Effect σ Unit :=
  let (c, told) := c.closeSocket
  let c := { c with
    phase := .unconnected none
    inbound := c.inbound.reset
    outbound := c.outbound.reset
    handshake := c.handshake.reset
    failure := none
    overflowed := false }
  ⟨(), c, told⟩

end Connection

end LineTunnel
