import LineTunnel.ByteQueue
import LineTunnel.Machine
import LineTunnel.Socks.Frame
import LineTunnel.Socks.Reply

/-! The client's side of a SOCKS negotiation, as a machine that is fed the buffered replies of the
proxy and queues requests. It takes exactly the bytes of each reply and waits, without any change,
for a reply that is not complete. -/

namespace LineTunnel.Socks

inductive StageV5 where
  | methods
  | userPassword
  | connect
  deriving DecidableEq, Repr

inductive Stage where
  | v4
  | v5 (stage : StageV5)
  deriving DecidableEq, Repr

structure Negotiation where
  stage : Stage
  host : String
  port : UInt16
  /-- The proxy has asked for credentials, and none were queued since. -/
  awaiting : Bool := false
  deriving DecidableEq, Repr

inductive Progress where
  | needMore
  | credentialsRequested
  | connected
  deriving DecidableEq, Repr

/-- Queues the opening request. Version 5 leaves the name of the target to the proxy; version 4
carries an address, so there the name is resolved here. -/
def Negotiation.start (lookup : NameLookup) (me : LocalUser) (server : Server) (host : String)
    (port : UInt16) (offerUserPassword : Bool) (out : ByteQueue) :
    Except Failure (Negotiation × ByteQueue) :=
  match server.version with
  | .v5 => do
    let out ← out.append (Frame.methods offerUserPassword)
    return ({ stage := .v5 .methods, host, port }, out)
  | .v4 => do
    let ip ← lookup.resolve host
    let user ← server.userId.text me
    let out ← out.append (Frame.connectByAddress ip port user)
    return ({ stage := .v4, host, port }, out)

structure Exchange where
  negotiation : Negotiation
  inbound : ByteQueue
  outbound : ByteQueue
  deriving DecidableEq, Repr

namespace Exchange

def skip (x : Exchange) (n : Nat) : Exchange := { x with inbound := x.inbound.discard n }

def requestTunnel (x : Exchange) : Except Failure Progress × Exchange :=
  match Frame.connectByName x.negotiation.host x.negotiation.port >>= x.outbound.append with
  | .error f => (.error f, x)
  | .ok outbound =>
    (.ok .needMore, { x with
      negotiation := { x.negotiation with stage := .v5 .connect }, outbound })

def stepV4 (x : Exchange) : Except Failure Progress × Exchange :=
  match x.inbound.bytes with
  | version :: code :: _ =>
    if x.inbound.length < Reply.lengthV4 then (.ok .needMore, x)
    else
      match Reply.judgeV4 version code with
      | .error cause => (.error (.socks cause), x.skip Reply.lengthV4)
      | .ok () => (.ok .connected, x.skip Reply.lengthV4)
  | _ => (.ok .needMore, x)

/-- The proxy selects a method. It may ask for credentials only where they can be asked for. -/
def stepMethods (canPrompt : Bool) (x : Exchange) : Except Failure Progress × Exchange :=
  match x.inbound.bytes with
  | version :: method :: _ =>
    let x := x.skip 2
    if version ≠ 5 then (.error (.socks .badVersion), x)
    else if method = Frame.noAuth then x.requestTunnel
    else if method = Frame.userPassword ∧ canPrompt then
      (.ok .credentialsRequested, { x with
        negotiation := { x.negotiation with stage := .v5 .userPassword, awaiting := true } })
    else (.error (.socks .noAcceptableMethods), x)
  | _ => (.ok .needMore, x)

/-- The proxy judges the credentials. Only the second byte of its reply counts. -/
def stepUserPassword (x : Exchange) : Except Failure Progress × Exchange :=
  match x.inbound.bytes with
  | _ :: code :: _ =>
    let x := x.skip 2
    if code ≠ 0 then (.error (.socks .authFailed), x) else x.requestTunnel
  | _ => (.ok .needMore, x)

def stepConnect (x : Exchange) : Except Failure Progress × Exchange :=
  match x.inbound.bytes with
  | version :: code :: _ :: kind :: size :: _ =>
    match Reply.lengthV5 version code kind size with
    | .error cause => (.error (.socks cause), x)
    | .ok n => if x.inbound.length < n then (.ok .needMore, x) else (.ok .connected, x.skip n)
  | _ => (.ok .needMore, x)

def step (canPrompt : Bool) (x : Exchange) : Except Failure Progress × Exchange :=
  match x.negotiation.stage with
  | .v4 => x.stepV4
  | .v5 .methods => x.stepMethods canPrompt
  | .v5 .userPassword => x.stepUserPassword
  | .v5 .connect => x.stepConnect

/-- Takes replies until the next one is not complete, credentials are asked for, or the
negotiation ends. -/
def advance (canPrompt : Bool) (x : Exchange) : Except Failure Progress × Exchange :=
  match x.step canPrompt with
  | (.ok .needMore, x') =>
    if 0 < x'.inbound.length ∧ x'.inbound.length < x.inbound.length then advance canPrompt x'
    else (.ok .needMore, x')
  | done => done
termination_by x.inbound.length

def submit (user password : String) (x : Exchange) : Except Failure Unit × Exchange :=
  if !x.negotiation.awaiting then (.error (.socks .notAwaitingCredentials), x)
  else if user == "" || password == "" then (.error (.socks .userCancelled), x)
  else
    match Frame.credentials user password >>= x.outbound.append with
    | .error f => (.error f, x)
    | .ok outbound =>
      (.ok (), { x with negotiation := { x.negotiation with awaiting := false }, outbound })

end Exchange

end LineTunnel.Socks
