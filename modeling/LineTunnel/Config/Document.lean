import LineTunnel.Config
import LineTunnel.Toml.Reader
import LineTunnel.Toml.Writer

/-! Configurations as TOML documents: a table for the link and, if there is a proxy, one for it.
A value that is missing takes its default, and what is not known is passed over. -/

namespace LineTunnel

open Toml (Plain Section Value Table)

/-! ### Writing -/

def Config.maxInteger : Nat := 0x7FFFFFFFFFFFFFFF

namespace LinkSettings

def entries (link : LinkSettings) : List (String × Plain) :=
  [("host", .string link.host), ("port", .integer link.port.toNat)]
    ++ (link.bindAddress.map fun address => ("bind_addr", Plain.string address)).toList
    ++ [("terminator", .integer link.terminator.toNat)]
    ++ (link.strip.map fun byte => ("strip", Plain.integer byte.toNat)).toList
    ++ [("connect_timeout_ms", .integer link.connectTimeout.toNat),
      ("recv_timeout_ms", .integer link.receiveTimeout.toNat)]

end LinkSettings

namespace ProxySettings

def entries (proxy : ProxySettings) : List (String × Plain) :=
  [("host", .string proxy.host), ("port", .integer proxy.port.toNat),
      ("version", .integer proxy.version.toNat), ("numeric_uid", .boolean proxy.numericUid)]
    ++ (proxy.user.map fun user => ("user", Plain.string user)).toList
    ++ (proxy.authUser.map fun user => ("auth_user", Plain.string user)).toList
    ++ (proxy.authPassword.map fun password => ("auth_password", Plain.string password)).toList

end ProxySettings

namespace Config

def sections (c : Config) : List Section :=
  ⟨"link", c.link.entries⟩ :: (c.proxy.map fun proxy => ⟨"socks", proxy.entries⟩).toList

def write (c : Config) : Except ConfigError String :=
  if maxInteger < c.link.connectTimeout.toNat ∨ maxInteger < c.link.receiveTimeout.toNat then
    .error .outOfRange
  else .ok (Section.writeAll c.sections)

/-! ### Reading -/

inductive Source where
  | named (entries : Table)
  | placed (items : List Value)

namespace Source

def ofValue (key : String) : Value → Except ConfigError Source
  | .table _ entries => .ok (.named entries)
  | .array _ items => .ok (.placed items)
  | .datetime _ => .ok (.named [])
  | _ => .error (.unsuitable key)

def take {α : Type} (s : Source) (place : Nat) (name : String) (convert : Value → Option α)
    (default : α) : Except ConfigError α :=
  let found := match s with
    | named entries => entries.get? name
    | placed items => items[place]?
  match found with
  | none => .ok default
  | some v =>
    match convert v with
    | some a => .ok a
    | none => .error (.unsuitable name)

end Source

def text : Value → Option String
  | .string s => some s
  | _ => none

def flag : Value → Option Bool
  | .boolean b => some b
  | _ => none

def natural (bound : Nat) : Value → Option Nat
  | .integer n => if 0 ≤ n ∧ n.toNat < bound then some n.toNat else none
  | _ => none

def byte (v : Value) : Option UInt8 := (natural UInt8.size v).map Nat.toUInt8

def port (v : Value) : Option UInt16 := (natural UInt16.size v).map Nat.toUInt16

def milliseconds (v : Value) : Option UInt64 := (natural UInt64.size v).map Nat.toUInt64

def ofLink (v : Value) : Except ConfigError LinkSettings := do
  let d : LinkSettings := {}
  let s ← Source.ofValue "link" v
  return {
    host := ← s.take 0 "host" text d.host
    port := ← s.take 1 "port" port d.port
    bindAddress := ← s.take 2 "bind_addr" (fun v => (text v).map some) d.bindAddress
    terminator := ← s.take 3 "terminator" byte d.terminator
    strip := ← s.take 4 "strip" (fun v => (byte v).map some) d.strip
    connectTimeout := ← s.take 5 "connect_timeout_ms" milliseconds d.connectTimeout
    receiveTimeout := ← s.take 6 "recv_timeout_ms" milliseconds d.receiveTimeout }

def ofProxy (v : Value) : Except ConfigError ProxySettings := do
  let d : ProxySettings := {}
  let s ← Source.ofValue "socks" v
  return {
    host := ← s.take 0 "host" text d.host
    port := ← s.take 1 "port" port d.port
    version := ← s.take 2 "version" byte d.version
    numericUid := ← s.take 3 "numeric_uid" flag d.numericUid
    user := ← s.take 4 "user" (fun v => (text v).map some) d.user
    authUser := ← s.take 5 "auth_user" (fun v => (text v).map some) d.authUser
    authPassword := ← s.take 6 "auth_password" (fun v => (text v).map some) d.authPassword }

def ofTable (t : Table) : Except ConfigError Config := do
  let link ← match t.get? "link" with
    | none => pure {}
    | some v => ofLink v
  let proxy ← match t.get? "socks" with
    | none => pure none
    | some v => some <$> ofProxy v
  return { link, proxy }

def read (s : String) : Except ConfigError Config :=
  match Toml.Reader.document s with
  | none => .error .malformed
  | some t => ofTable t

end Config

end LineTunnel
