import LineTunnel.Arguments
import LineTunnel.Config.File
import LineTunnel.Session

/-! The program: it connects, sends its messages, prints what it receives until nothing more comes
in time, and closes. It is a machine that is advanced as long as it need not wait, and is told what
its waiting brought: something on the socket, its input, or the end of the time. -/

namespace LineTunnel

def Arguments.configure (a : Arguments) (place : Place) : Except SessionError Config × Place :=
  match a.config with
  | none => (.ok (a.override {}), place)
  | some _ =>
    let (found, place) := Config.loadOrCreate place
    (found.map a.override, place)

def Config.names (c : Config) : List String :=
  let hosts := c.link.bindAddress.toList ++ match c.proxy with
    | none => [c.link.host]
    | some proxy => if proxy.version = 4 then [proxy.host, c.link.host] else [proxy.host]
  hosts.filter fun host =>
    host != "" && (Ipv4.parse host).isNone && !isIpv6 host && !host.toList.any (· == '\x00')

namespace Program

inductive Task where
  | connecting (messages : List Bytes)
  | reading
  | sending (rest : List Bytes)
  | receiving
  | finished (error : Option String)
  deriving DecidableEq, Repr

end Program

structure Program (σ : Type) where
  session : Session σ
  task : Program.Task

namespace Program

variable {σ : Type}

def error? (p : Program σ) : Option (Option String) :=
  match p.task with
  | .finished error => some error
  | _ => none

def abort (s : Session σ) (e : SessionError) : Program σ := ⟨s, .finished (some e.message)⟩

def start (machine : Machine σ) (messages : List String) (s : Session σ) : Program σ :=
  match s.dial machine with
  | (.error e, s) => abort s e
  | (.ok (), s) => ⟨s, .connecting (messages.map utf8)⟩

def sendNext (messages : List Bytes) (s : Session σ) : Program σ :=
  match messages with
  | [] => ⟨s, .receiving⟩
  | message :: rest =>
    match s.post message with
    | (.error e, s) => abort s e
    | (.ok (), s) => ⟨s, .sending rest⟩

def patience (p : Program σ) : Option UInt64 :=
  match p.task with
  | .connecting _ => some p.session.config.link.connectTimeout
  | .sending _ | .receiving => some p.session.config.link.receiveTimeout
  | .reading | .finished _ => none

def advance? (p : Program σ) : Option (Program σ × Option Bytes) :=
  let s := p.session
  match p.task with
  | .connecting messages =>
    s.dialed?.map fun
      | .error e => (abort s e, none)
      | .ok () => (if messages.isEmpty then ⟨s, .reading⟩ else sendNext messages s, none)
  | .sending rest => if s.isFlushed then some (sendNext rest s, none) else none
  | .receiving =>
    s.received?.map fun
      | (.ok message, s) => (⟨s, .receiving⟩, some message)
      | (.error _, s) => (⟨s.close, .finished none⟩, none)
  | .reading | .finished _ => none

def supply (input : Bytes) (p : Program σ) : Program σ :=
  match Text.lines? input with
  | none => ⟨p.session, .finished (some FileError.notUtf8.message)⟩
  | some lines => sendNext (lines.map utf8) p.session

def expire (p : Program σ) : Program σ :=
  match p.task with
  | .connecting _ => abort p.session.close (.timeout .connecting)
  | .sending _ => abort p.session (.timeout .sending)
  | .receiving => ⟨p.session.close, .finished none⟩
  | .reading | .finished _ => p

def pump [Pollable σ] (turn : Turn σ) (p : Program σ) : Program σ :=
  { p with session := p.session.pump turn }

end Program

end LineTunnel
