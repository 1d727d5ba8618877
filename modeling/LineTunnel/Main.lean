import LineTunnel.Program
import LineTunnel.Transport.Link
import Std.Internal.UV.DNS
import Std.Internal.UV.System
import Std.Internal.UV.TCP

/-! The command line program. All decisions are taken on a link held in memory; here that link is
tied to a socket: what arrives goes into its inbox, and what it holds for the peer is sent. -/

namespace LineTunnel.Main

open Std.Internal.UV (TCP.Socket)
open Std.Net (IPAddr IPv4Addr SocketAddress)

abbrev Pending (α : Type) := Task (Option (Except IO.Error α))

def errno (e : IO.Error) : Int :=
  let code : UInt32 := match e with
    | .otherError code _ | .resourceBusy code _ | .resourceVanished code _
    | .unsupportedOperation code _ | .hardwareFault code _ | .unsatisfiedConstraints code _
    | .illegalOperation code _ | .protocolError code _ | .timeExpired code _
    | .alreadyExists _ code _ | .interrupted _ code _ | .noFileOrDirectory _ code _
    | .invalidArgument _ code _ | .permissionDenied _ code _ | .resourceExhausted _ code _
    | .inappropriateType _ code _ | .noSuchThing _ code _ => code
    | .unexpectedEof | .userError _ => 5
  (if code < 0x80000000 then code else 0 - code).toNat

def launch {α : Type} (operation : IO (IO.Promise (Except IO.Error α))) : IO (Pending α) := do
  try
    let promise ← operation
    return promise.result?
  catch e => return .pure (some (.error e))

def outcome {α : Type} (task : Pending α) : IO (Except Int α) := do
  match ← IO.wait task with
  | some (.ok a) => return .ok a
  | some (.error e) => return .error (errno e)
  | none => return .error 5

/-! ### The machine -/

def lookUp (name : String) : IO (Except ResolveFailure (List Ipv4)) := do
  match ← outcome (← launch (Std.Internal.UV.DNS.getAddrInfo name "" 0)) with
  | .error _ => return .error .hostNotFound
  | .ok found =>
    return .ok (found.toList.filterMap fun
      | .v4 ip => some ⟨ip.octets[0], ip.octets[1], ip.octets[2], ip.octets[3]⟩
      | .v6 _ => none)

def lookupAll (names : List String) : IO NameLookup := do
  let found ← names.mapM fun name => return (name, ← lookUp name)
  return fun name => (found.lookup name).getD (.error .hostNotFound)

def localUser : IO Socks.LocalUser := do
  let info ← Std.Internal.UV.System.osGetPasswd
  return {
    uid := (info.uid.getD 0).toNat
    login := if info.username.isEmpty then none else some info.username }

def endpoint (ip : Ipv4) (port : UInt16) : SocketAddress :=
  .v4 ⟨IPv4Addr.ofParts ip.a ip.b ip.c ip.d, port⟩

structure Route where
  near : Option Ipv4
  remote : Ipv4
  port : UInt16

def scout (lookup : NameLookup) (user : Socks.LocalUser) : Machine Route where
  lookup
  user
  bind _ := .ok ()
  dial near remote port := .ok (.inProgress ⟨near, remote, port⟩)

structure Wire where
  socket : TCP.Socket
  connecting : Option (Pending Unit)
  receiving : Option (Pending (Option ByteArray)) := none

def openWire (route : Route) : IO (Except Int Wire) := do
  try
    let socket ← TCP.Socket.new
    if let some ip := route.near then
      socket.bind (endpoint ip 0)
    let connecting ← launch (socket.connect (endpoint route.remote route.port))
    return .ok { socket, connecting := some connecting }
  catch e => return .error (errno e)

/-! ### The wait -/

def interval : UInt32 := 1

partial def ended {α : Type} (deadline : Nat) (task : Pending α) : IO Bool := do
  if ← IO.hasFinished task then return true
  else if deadline ≤ (← IO.monoMsNow) then return false
  else
    IO.sleep interval
    ended deadline task

def ship (wire : Wire) (deadline : Nat) (p : Program Link) : IO (Option (Program Link)) := do
  let sent : Link := p.session.connection.socket.getD {}
  if sent.outbox.isEmpty then return some p
  let sending ← launch (wire.socket.send #[⟨sent.outbox.toArray⟩])
  if ← ended deadline sending then
    let turn : Turn Link := match ← outcome sending with
      | .ok () => fun link => link.collect.2
      | .error code => fun link => { link.collect.2 with broken := true, error := some code }
    let connection := p.session.connection
    let connection := { connection with socket := connection.socket.map turn }
    return some { p with session := { p.session with connection } }
  else return none

def await (wire : Wire) (deadline : Nat) : IO (Option (Turn Link) × Wire) := do
  match wire.connecting with
  | some task =>
    if ← ended deadline task then
      let wire := { wire with connecting := none }
      match ← outcome task with
      | .ok () => return (some id, wire)
      | .error code => return (some fun link => { link with error := some code }, wire)
    else return (none, wire)
  | none =>
    let task ← match wire.receiving with
      | some task => pure task
      | none => launch (wire.socket.recv? 65536)
    if ← ended deadline task then
      let wire := { wire with receiving := none }
      match ← outcome task with
      | .ok (some bs) =>
        return (some fun link => { link with inbox := link.inbox ++ bs.data.toList }, wire)
      | .ok none => return (some fun link => { link with finished := true }, wire)
      | .error code => return (some fun link => { link with error := some code }, wire)
    else return (none, { wire with receiving := some task })

/-! ### The program -/

def print (message : Bytes) : IO Unit := do
  IO.println (String.ofList (Text.decode message))
  (← IO.getStdout).flush

partial def readAll (input : IO.FS.Stream) (before : ByteArray) : IO Bytes := do
  let chunk ← input.read 65536
  if chunk.isEmpty then return before.data.toList else readAll input (before ++ chunk)

def deadlineOf (p : Program Link) : IO Nat := do
  return (← IO.monoMsNow) + ((p.patience.map UInt64.toNat).getD 0)

def conclude (error : Option String) : IO UInt32 := do
  match error with
  | none => return 0
  | some message =>
    IO.eprintln ("Error: " ++ Text.quote message)
    return 1

partial def drive (wire : Wire) (deadline : Nat) (p : Program Link) : IO UInt32 := do
  match p.task with
  | .finished error => conclude error
  | .reading =>
    let p := p.supply (← readAll (← IO.getStdin) .empty)
    drive wire (← deadlineOf p) p
  | _ =>
    match ← ship wire deadline p with
    | none => drive wire deadline p.expire
    | some p =>
      match p.advance? with
      | some (p, message) =>
        message.forM print
        drive wire (← deadlineOf p) p
      | none =>
        if wire.connecting.isNone && p.session.connection.watch.writable then
          drive wire deadline (p.pump id)
        else
          match ← await wire deadline with
          | (some turn, wire) => drive wire deadline (p.pump turn)
          | (none, wire) => drive wire deadline p.expire

def run (messages : List String) (s : Session Link) : IO UInt32 := do
  let lookup ← lookupAll s.config.names
  let user ← localUser
  let start (dialed : Except Failure (Dialed Link)) : Program Link :=
    .start { lookup, user, bind := fun _ => .ok (), dial := fun _ _ _ => dialed } messages s
  let p := start (.ok (.inProgress {}))
  let link := s.config.link
  let (host, port) := s.connection.destination link.host link.port
  match p.error?, (scout lookup user).connect link.bindAddress host port with
  | some error, _ => conclude error
  | none, .error f => conclude (start (.error f)).error?.join
  | none, .ok dialed =>
    let deadline ← deadlineOf p
    match ← openWire dialed.socket with
    | .ok wire => drive wire deadline p
    | .error code => conclude (start (.error (.os code))).error?.join

def placeOf (path : String) : IO Place := do
  try
    return .file (← IO.FS.readBinFile path).data.toList
  catch e => return if errno e = 2 then .free else .unusable (errno e)

def configure (a : Arguments) : IO (Except SessionError Config) := do
  match a.config with
  | none => return (a.configure .free).1
  | some path =>
    let before ← placeOf path
    let (found, after) := a.configure before
    match before, after with
    | .free, .file content =>
      try
        IO.FS.writeBinFile path ⟨content.toArray⟩
        return found
      catch e => return .error (.file (.errno (errno e)))
    | _, _ => return found

end LineTunnel.Main

def main (args : List String) : IO UInt32 := do
  match LineTunnel.Arguments.parse args with
  | .error e =>
    IO.eprintln ("error: " ++ e.message)
    return 2
  | .ok a =>
    match (← LineTunnel.Main.configure a) >>= LineTunnel.Session.create with
    | .error e => LineTunnel.Main.conclude (some e.message)
    | .ok s => LineTunnel.Main.run a.messages s
