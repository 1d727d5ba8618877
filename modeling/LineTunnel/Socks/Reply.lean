import LineTunnel.Bytes
import LineTunnel.Failure

/-! What the replies of a SOCKS proxy say. -/

namespace LineTunnel.Socks.Reply

def refusalV4 (code : UInt8) : SocksFailure :=
  if code = 91 then .requestRejected
  else if code = 92 then .noIdentd
  else if code = 93 then .identdMismatch
  else .unknownReplyCode

def refusalV5 (code : UInt8) : SocksFailure :=
  if code = 1 then .generalFailure
  else if code = 2 then .rulesetDenied
  else if code = 3 then .networkUnreachable
  else if code = 4 then .hostUnreachable
  else if code = 5 then .connectionRefused
  else if code = 6 then .ttlExpired
  else if code = 7 then .commandNotSupported
  else if code = 8 then .addressTypeNotSupported
  else .unknownReplyCode

def lengthV4 : Nat := 8

def judgeV4 (version code : UInt8) : Except SocksFailure Unit :=
  if version ≠ 0 then .error .badReplyVersion
  else if code ≠ 90 then .error (refusalV4 code)
  else .ok ()

/-- The length of a version 5 connect reply, told by its first five bytes: the address in it has
four bytes, sixteen, or as many as the fifth byte says. A refusal is told by the same bytes. -/
def lengthV5 (version code kind size : UInt8) : Except SocksFailure Nat :=
  if version ≠ 5 then .error .badVersion
  else if code ≠ 0 then .error (refusalV5 code)
  else if kind = 1 then .ok 10
  else if kind = 4 then .ok 22
  else if kind = 3 then .ok (7 + size.toNat)
  else .error .badAddressType

end LineTunnel.Socks.Reply
