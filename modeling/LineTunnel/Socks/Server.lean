import LineTunnel.Bytes
import LineTunnel.Failure

/-! A SOCKS proxy as its user describes it, and the user id that a version 4 request carries. -/

namespace LineTunnel.Socks

inductive Version where
  | v4
  | v5
  deriving DecidableEq, Repr

namespace Version

def number : Version → Nat
  | v4 => 4
  | v5 => 5

def ofNumber? : Nat → Option Version
  | 4 => some v4
  | 5 => some v5
  | _ => none

end Version

structure Server where
  name : String
  port : UInt16
  version : Version
  numericUid : Bool := false
  user : Option String := none
  authUser : Option String := none
  authPassword : Option String := none
  deriving DecidableEq, Repr

structure LocalUser where
  uid : Nat
  login : Option String
  deriving DecidableEq, Repr

inductive UserId where
  | given (user : String)
  | uid
  | login
  deriving DecidableEq, Repr

def Server.userId (server : Server) : UserId :=
  match server.user.filter (· != "") with
  | some user => .given user
  | none => if server.numericUid then .uid else .login

def UserId.text (me : LocalUser) : UserId → Except Failure String
  | given user => .ok user
  | uid => .ok (toString me.uid)
  | login => match me.login with
    | some name => .ok name
    | none => .error (.socks .noUsername)

end LineTunnel.Socks
