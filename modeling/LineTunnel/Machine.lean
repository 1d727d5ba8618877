import LineTunnel.Address
import LineTunnel.Socks.Server

/-! What a connection needs of the machine it runs on: names looked up, sockets opened, and who the
user is. Names are resolved to IPv4 addresses only. -/

namespace LineTunnel

abbrev NameLookup := String → Except ResolveFailure (List Ipv4)

/-- The address to use for a host. An address is its own; no name holds a zero character. -/
def NameLookup.resolve (lookup : NameLookup) (host : String) : Except Failure Ipv4 :=
  match Ipv4.parse host with
  | some ip => .ok ip
  | none =>
    if isIpv6 host then .error (.resolve .noData)
    else if host.toList.any (· == '\x00') then .error (.resolve .hostNotFound)
    else
      match lookup host with
      | .error cause => .error (.resolve cause)
      | .ok [] => .error (.resolve .noData)
      | .ok (ip :: _) => .ok ip

inductive Dialed (σ : Type) where
  | connected (socket : σ)
  | inProgress (socket : σ)
  deriving Repr

def Dialed.socket {σ : Type} : Dialed σ → σ
  | connected socket => socket
  | inProgress socket => socket

structure Machine (σ : Type) where
  lookup : NameLookup
  user : Socks.LocalUser
  bind : Ipv4 → Except Failure Unit
  dial : Option Ipv4 → Ipv4 → UInt16 → Except Failure (Dialed σ)

namespace Machine

variable {σ : Type}

def connect (machine : Machine σ) (bindAddress : Option String) (host : String) (port : UInt16) :
    Except Failure (Dialed σ) := do
  let remote ← machine.lookup.resolve host
  match bindAddress.filter (· != "") with
  | none => machine.dial none remote port
  | some address =>
    let near ← machine.lookup.resolve address
    machine.bind near
    machine.dial (some near) remote port

def isolated (user : Socks.LocalUser) : Machine σ where
  lookup _ := .error .hostNotFound
  user
  bind _ := .ok ()
  dial _ _ _ := .error (.os 101)

end Machine

end LineTunnel
