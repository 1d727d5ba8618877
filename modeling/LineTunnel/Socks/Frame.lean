import LineTunnel.Address
import LineTunnel.Failure

/-! The requests that a SOCKS client sends, as bytes. -/

namespace LineTunnel.Socks.Frame

def maxText : Nat := 255

def noAuth : UInt8 := 0

def userPassword : UInt8 := 2

def lengthPrefixed (s : String) : Bytes := s.utf8ByteSize.toUInt8 :: utf8 s

def methods (offerUserPassword : Bool) : Bytes :=
  let offered := if offerUserPassword then [noAuth, userPassword] else [noAuth]
  5 :: offered.length.toUInt8 :: offered

def credentials (user password : String) : Except Failure Bytes :=
  if maxText < user.utf8ByteSize ∨ maxText < password.utf8ByteSize then
    .error (.socks .credentialsTooLong)
  else .ok (1 :: lengthPrefixed user ++ lengthPrefixed password)

def connectByName (host : String) (port : UInt16) : Except Failure Bytes :=
  if maxText < host.utf8ByteSize then .error (.socks .hostnameTooLong)
  else .ok ([5, 1, 0, 3] ++ lengthPrefixed host ++ bigEndian port)

/-- Asks a version 4 proxy for a tunnel to an address. The user id ends at the first zero byte. -/
def connectByAddress (ip : Ipv4) (port : UInt16) (user : String) : Bytes :=
  [4, 1] ++ bigEndian port ++ ip.octets ++ utf8 user ++ [0]

variable {user password host : String} {port : UInt16} {frame : Bytes}

theorem credentials_eq_ok_iff : credentials user password = .ok frame ↔
    (user.utf8ByteSize ≤ maxText ∧ password.utf8ByteSize ≤ maxText) ∧
      frame = 1 :: lengthPrefixed user ++ lengthPrefixed password := by
  unfold credentials
  split
  · next hlong => exact ⟨nofun, fun h => by omega⟩
  · next hfits =>
    refine ⟨fun h => ?_, fun h => congrArg _ h.2.symm⟩
    cases h
    exact ⟨by omega, rfl⟩

theorem connectByName_eq_ok_iff : connectByName host port = .ok frame ↔
    host.utf8ByteSize ≤ maxText ∧
      frame = [5, 1, 0, 3] ++ lengthPrefixed host ++ bigEndian port := by
  unfold connectByName
  split
  · next hlong => exact ⟨nofun, fun h => absurd h.1 (Nat.not_le.2 hlong)⟩
  · next hfits =>
    refine ⟨fun h => ?_, fun h => congrArg _ h.2.symm⟩
    cases h
    exact ⟨Nat.le_of_not_lt hfits, rfl⟩

theorem exists_credentials_iff : (∃ frame, credentials user password = .ok frame) ↔
    user.utf8ByteSize ≤ maxText ∧ password.utf8ByteSize ≤ maxText :=
  ⟨fun ⟨_, h⟩ => (credentials_eq_ok_iff.1 h).1, fun h => ⟨_, credentials_eq_ok_iff.2 ⟨h, rfl⟩⟩⟩

theorem exists_connectByName_iff :
    (∃ frame, connectByName host port = .ok frame) ↔ host.utf8ByteSize ≤ maxText :=
  ⟨fun ⟨_, h⟩ => (connectByName_eq_ok_iff.1 h).1, fun h => ⟨_, connectByName_eq_ok_iff.2 ⟨h, rfl⟩⟩⟩

theorem exists_of_credentials (h : credentials user password = .ok frame) :
    ∃ rest, frame = 1 :: rest :=
  ⟨_, (credentials_eq_ok_iff.1 h).2⟩

theorem exists_of_connectByName (h : connectByName host port = .ok frame) :
    ∃ rest, frame = 5 :: rest :=
  ⟨_, (connectByName_eq_ok_iff.1 h).2⟩

end LineTunnel.Socks.Frame
