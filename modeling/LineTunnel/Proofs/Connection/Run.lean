import LineTunnel.Proofs.Connection.Transfer

/-! Runs of a connection between two connects: its owner's calls in any order, and whatever happens
to its socket meanwhile. A run keeps the socket, in its last state once it is closed, and a log of
what went into the connection and came out of it. -/

namespace LineTunnel

inductive Move (σ : Type) where
  | queue (message : Bytes)
  | submit (user password : String)
  | service (ready : Readiness)
  | next
  | take (n : Nat)
  | setWatcher (listener : Nat)
  | setPrompter (listener : Nat)
  | turn (f : σ → σ)

inductive Event where
  | queued (message : Bytes)
  | dropped (message : Bytes)
  | requested (bs : Bytes)
  | received (raw message : Bytes)
  | handedOut (bs : Bytes)
  deriving DecidableEq, Repr

namespace Event

def queued? : Event → Option Bytes
  | queued message => some message
  | _ => none

def returned? : Event → Option Bytes
  | received _ message => some message
  | _ => none

def isDrop : Event → Bool
  | dropped _ => true
  | _ => false

def request : Event → Bytes
  | requested bs => bs
  | _ => []

def output : Event → Bytes
  | received raw _ => raw
  | handedOut bs => bs
  | _ => []

end Event

abbrev Log := List Event

namespace Log

def accepted (log : Log) : List Bytes := log.filterMap Event.queued?

def acceptedBeforeDrop (log : Log) : List Bytes := accepted (log.takeWhile (!·.isDrop))

def returned (log : Log) : List Bytes := log.filterMap Event.returned?

def hasDrop (log : Log) : Bool := log.any Event.isDrop

def requests (log : Log) : Bytes := log.flatMap Event.request

def output (log : Log) : Bytes := log.flatMap Event.output

def ofRequest (bs : Bytes) : Log := if bs = [] then [] else [.requested bs]

section

variable (bs : Bytes)

theorem accepted_ofRequest : accepted (ofRequest bs) = [] := by
  unfold ofRequest
  split <;> rfl

theorem requests_ofRequest : requests (ofRequest bs) = bs := by
  unfold ofRequest
  split
  · next h => exact h.symm
  · exact List.flatMap_singleton ..

theorem output_ofRequest : output (ofRequest bs) = [] := by
  unfold ofRequest
  split <;> rfl

theorem returned_ofRequest : returned (ofRequest bs) = [] := by
  unfold ofRequest
  split <;> rfl

theorem hasDrop_ofRequest : hasDrop (ofRequest bs) = false := by
  unfold ofRequest
  split <;> rfl

theorem received_notMem_ofRequest (raw message : Bytes) :
    Event.received raw message ∉ ofRequest bs := by
  unfold ofRequest
  split <;> simp

theorem handedOut_notMem_ofRequest (bs' : Bytes) : Event.handedOut bs' ∉ ofRequest bs := by
  unfold ofRequest
  split <;> simp

end

variable (log log' : Log)

theorem accepted_append : accepted (log ++ log') = log.accepted ++ log'.accepted :=
  List.filterMap_append ..

theorem returned_append : returned (log ++ log') = log.returned ++ log'.returned :=
  List.filterMap_append ..

theorem hasDrop_append : hasDrop (log ++ log') = (log.hasDrop || log'.hasDrop) :=
  List.any_append ..

theorem requests_append : requests (log ++ log') = log.requests ++ log'.requests :=
  List.flatMap_append ..

theorem output_append : output (log ++ log') = log.output ++ log'.output :=
  List.flatMap_append ..

theorem acceptedBeforeDrop_prefix_append :
    log.acceptedBeforeDrop <+: acceptedBeforeDrop (log ++ log') := by
  unfold acceptedBeforeDrop
  rw [List.takeWhile_append]
  split
  · next hall =>
    rw [(List.takeWhile_prefix _).eq_of_length hall, accepted_append]
    exact List.prefix_append ..
  · exact List.prefix_rfl

theorem acceptedBeforeDrop_of_hasDrop_eq_false {log : Log} (h : log.hasDrop = false) :
    log.acceptedBeforeDrop = log.accepted := by
  unfold acceptedBeforeDrop
  have hkept : ∀ e ∈ log, (!e.isDrop) = true := by
    intro e he
    have hdrop := List.any_eq_false.1 h e he
    simpa using hdrop
  rw [← List.append_nil log, List.takeWhile_append_of_pos hkept, List.takeWhile_nil]

end Log

structure Run (σ : Type) where
  connection : Connection (Recorded σ)
  socket : Recorded σ
  log : Log := []

variable {σ : Type}

def Connection.turned (f : σ → σ) (c : Connection (Recorded σ)) : Connection (Recorded σ) :=
  { c with socket := c.socket.map (·.turn f) }

variable [Transport σ]

def Move.effect (c : Connection (Recorded σ)) : Move σ → Effect (Recorded σ) Log
  | queue message =>
    let e := c.queue message
    match e.answer with
    | .ok () => ⟨[.queued message], e.after, e.notices⟩
    | .error _ => ⟨[.dropped message], e.after, e.notices⟩
  | submit user password =>
    let e := c.submit user password
    match e.answer, Socks.Frame.credentials user password with
    | .ok (), .ok frame => ⟨.ofRequest frame, e.after, e.notices⟩
    | _, _ => ⟨[], e.after, e.notices⟩
  | service ready =>
    let e := c.service ready
    ⟨.ofRequest (c.phase.asked e.after.phase), e.after, e.notices⟩
  | next =>
    match c.next with
    | (none, c') => ⟨[], c', []⟩
    | (some message, c') =>
      ⟨[.received (c.inbound.bytes.take (c.inbound.length - c'.inbound.length)) message], c', []⟩
  | take n =>
    match c.take n with
    | (none, c') => ⟨[], c', []⟩
    | (some bs, c') => ⟨[.handedOut bs], c', []⟩
  | setWatcher listener =>
    let e := c.setWatcher listener
    ⟨[], e.after, e.notices⟩
  | setPrompter listener => ⟨[], c.setPrompter listener, []⟩
  | turn f => ⟨[], c.turned f, []⟩

namespace Run

def step (r : Run σ) (m : Move σ) : Run σ :=
  let e := m.effect r.connection
  ⟨e.after, e.lastSocket.getD r.socket, r.log ++ e.answer⟩

theorem step_service (r : Run σ) (ready : Readiness) :
    (r.step (.service ready)).connection = (r.connection.service ready).after ∧
      (r.step (.service ready)).socket =
        (r.connection.service ready).lastSocket.getD r.socket := ⟨rfl, rfl⟩

theorem log_service (r : Run σ) (ready : Readiness) : (r.step (.service ready)).log = r.log ++
    .ofRequest (r.connection.phase.asked (r.step (.service ready)).connection.phase) := rfl

def run (r : Run σ) (ms : List (Move σ)) : Run σ := ms.foldl step r

theorem run_append (r : Run σ) (ms ns : List (Move σ)) : r.run (ms ++ ns) = (r.run ms).run ns :=
  List.foldl_append ..

def Tied (r : Run σ) : Prop := ∀ s, r.connection.socket = some s → r.socket = s

end Run

end LineTunnel
