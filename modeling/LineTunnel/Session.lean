import LineTunnel.Connection.Connect
import LineTunnel.Connection.Messages
import LineTunnel.Polling
import LineTunnel.SessionError

/-! A connection driven by one owner who does wait: to connect, to send, to receive. What happens
to the socket while the owner waits is given as a list of turns; the deadline expires when the list
is used up. -/

namespace LineTunnel

abbrev Turn (σ : Type) := σ → σ

structure Session (σ : Type) where
  config : Config
  connection : Connection σ

namespace Session

variable {σ : Type}

def prompter : Nat := 0

def create (config : Config) : Except SessionError (Session σ) :=
  let framing := config.link.framing
  match config.proxy with
  | none => .ok ⟨config, .create framing none⟩
  | some proxy =>
    match proxy.server with
    | .error cause => .error (.config cause)
    | .ok server => .ok ⟨config, (Connection.create framing (some server)).setPrompter prompter⟩

def failure (s : Session σ) : SessionError :=
  match s.connection.failure with
  | some f => .link f
  | none => .notConnected

def close (s : Session σ) : Session σ := { s with connection := s.connection.shutdown.after }

/-- Answers a request for credentials with the configured ones. What is missing counts as empty.
A refusal stays with the connection and ends it at the next turn. -/
def answerPrompt (s : Session σ) : Session σ :=
  let user := (s.config.proxy.bind (·.authUser)).getD ""
  let password := (s.config.proxy.bind (·.authPassword)).getD ""
  { s with connection := (s.connection.submit user password).after }

def isPrompt : Notice σ → Bool
  | .prompt _ _ => true
  | _ => false

def dial (machine : Machine σ) (s : Session σ) : Except SessionError Unit × Session σ :=
  let link := s.config.link
  let e := s.connection.startConnect machine link.bindAddress link.host link.port
  (e.answer.mapError .link, { s with connection := e.after })

def dialed? (s : Session σ) : Option (Except SessionError Unit) :=
  if s.connection.isConnected then some (.ok ())
  else if s.connection.isActive then none
  else some (.error s.failure)

def post (message : Bytes) (s : Session σ) : Except SessionError Unit × Session σ :=
  if s.connection.isActive then
    let e := s.connection.queue message
    (e.answer.mapError .link, { s with connection := e.after })
  else (.error .notConnected, s)

def isFlushed (s : Session σ) : Bool := !s.connection.watch.writable

/-- Whether the wait for a message is over, and how. Messages that came before the connection went
are still received. -/
def received? (s : Session σ) : Option (Except SessionError Bytes × Session σ) :=
  match s.connection.next with
  | (some message, connection) => some (.ok message, { s with connection })
  | (none, _) => if s.connection.isActive then none else some (.error s.failure, s)

variable [Pollable σ]

def pump (turn : Turn σ) (s : Session σ) : Session σ :=
  let e := Polling.one { s.connection with socket := s.connection.socket.map turn }
  let s := { s with connection := e.after }
  if e.notices.any isPrompt then s.answerPrompt else s

def await {α : Type} (verdict : Session σ → Option (α × Session σ)) :
    List (Turn σ) → Session σ → Option α × Session σ
  | [], s =>
    match verdict s with
    | some (a, s) => (some a, s)
    | none => (none, s)
  | turn :: turns, s =>
    match verdict s with
    | some (a, s) => (some a, s)
    | none => await verdict turns (s.pump turn)

def connect (machine : Machine σ) (turns : List (Turn σ)) (s : Session σ) :
    Except SessionError Unit × Session σ :=
  match s.dial machine with
  | (.error e, s) => (.error e, s)
  | (.ok (), s) =>
    match s.await (fun s => s.dialed?.map (·, s)) turns with
    | (some result, s) => (result, s)
    | (none, s) => (.error (.timeout .connecting), s.close)

def send (message : Bytes) (turns : List (Turn σ)) (s : Session σ) :
    Except SessionError Unit × Session σ :=
  match s.post message with
  | (.error e, s) => (.error e, s)
  | (.ok (), s) =>
    match s.await (fun s => if s.isFlushed then some ((), s) else none) turns with
    | (some (), s) => (.ok (), s)
    | (none, s) => (.error (.timeout .sending), s)

def receive (turns : List (Turn σ)) (s : Session σ) :
    Except SessionError (Option Bytes) × Session σ :=
  match s.await received? turns with
  | (some result, s) => (result.map some, s)
  | (none, s) => (.ok none, s)

end Session

end LineTunnel
