import LineTunnel.Connection.Service
import LineTunnel.Transport.Pollable

/-! Polling the sockets of several connections at once, and letting those work that have something
to do. Only connections that watch something take part in the poll call, so its answers stand in
other places than the connections, and each has to find its way back. -/

namespace LineTunnel.Polling

variable {σ : Type} [Pollable σ]

def isUrgent (c : Connection σ) : Bool := c.isActive && c.failure.isSome

def request? (c : Connection σ) : Option (σ × PollEvents) :=
  c.socket.bind fun s => c.interest.map fun asked => (s, asked)

def slots (cs : List (Connection σ)) : List Nat :=
  cs.zipIdx.filterMap fun (c, place) => (request? c).map fun _ => place

def poll (requests : List (σ × PollEvents)) : List PollEvents :=
  requests.map fun (s, asked) => Pollable.poll s asked

def skip (c : Connection σ) : Effect σ (Option Outcome) := ⟨none, c, []⟩

def serve (ready : Readiness) (c : Connection σ) : Effect σ (Option Outcome) :=
  let ⟨outcome, c, told⟩ := c.service ready
  ⟨some outcome, c, told⟩

/-- The services that are due, by the place of the connection. Where connections have a failure to
act on, those are served, and nothing is polled. -/
def due (cs : List (Connection σ)) : List (Nat × Readiness) :=
  if cs.any isUrgent then
    cs.zipIdx.filterMap fun (c, place) => if isUrgent c then some (place, .none) else none
  else
    ((slots cs).zip (poll (cs.filterMap request?))).filterMap fun (place, events) =>
      if events = 0 then none else some (place, events.readiness)

def serveAt (es : List (Effect σ (Option Outcome))) (service : Nat × Readiness) :
    List (Effect σ (Option Outcome)) :=
  es.modify service.1 fun e =>
    let ⟨outcome, c, told⟩ := serve service.2 e.after
    ⟨outcome, c, e.notices ++ told⟩

def all (cs : List (Connection σ)) : List (Effect σ (Option Outcome)) :=
  (due cs).foldl serveAt (cs.map skip)

def one (c : Connection σ) : Effect σ (Option Outcome) := (all [c]).headD (skip c)

end LineTunnel.Polling
