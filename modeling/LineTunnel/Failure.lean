import LineTunnel.Failure.Errno

/-! Why a connection fails. A failure is a cause in one of four domains; each cause has a number
within its domain, and a failure can be rebuilt from domain and number. -/

namespace LineTunnel

inductive ResolveFailure where
  | hostNotFound
  | tryAgain
  | noRecovery
  | noData
  deriving DecidableEq, Repr

inductive SocksFailure where
  | generalFailure
  | rulesetDenied
  | networkUnreachable
  | hostUnreachable
  | connectionRefused
  | ttlExpired
  | commandNotSupported
  | addressTypeNotSupported
  | requestRejected
  | noIdentd
  | identdMismatch
  | unknownReplyCode
  | authFailed
  | userCancelled
  | badAddressType
  | badReplyVersion
  | badVersion
  | noAcceptableMethods
  | hostnameTooLong
  | credentialsTooLong
  | noUsername
  | notAwaitingCredentials
  deriving DecidableEq, Repr

inductive LinkFailure where
  | bufferFull
  | closedByPeer
  | socketException
  deriving DecidableEq, Repr

inductive Failure where
  | os (code : Int)
  | resolve (cause : ResolveFailure)
  | socks (cause : SocksFailure)
  | link (cause : LinkFailure)
  deriving DecidableEq, Repr

namespace ResolveFailure

def all : List ResolveFailure := [hostNotFound, tryAgain, noRecovery, noData]

def code : ResolveFailure → Nat
  | hostNotFound => 1
  | tryAgain => 2
  | noRecovery => 3
  | noData => 4

def message : ResolveFailure → String
  | hostNotFound => "Host not found"
  | tryAgain => "Temporary name server error - try again later"
  | noRecovery => "Non-recoverable name server error"
  | noData => "No address associated with name"

end ResolveFailure

namespace SocksFailure

def all : List SocksFailure := [
  generalFailure, rulesetDenied, networkUnreachable, hostUnreachable, connectionRefused,
  ttlExpired, commandNotSupported, addressTypeNotSupported, requestRejected, noIdentd,
  identdMismatch, unknownReplyCode, authFailed, userCancelled, badAddressType, badReplyVersion,
  badVersion, noAcceptableMethods, hostnameTooLong, credentialsTooLong, noUsername,
  notAwaitingCredentials]

/-- Numbers 1 to 8 are the reply codes of SOCKS5 and 91 to 93 those of SOCKS4; failures that no
proxy reports are numbered from 200. -/
def code : SocksFailure → Nat
  | generalFailure => 1
  | rulesetDenied => 2
  | networkUnreachable => 3
  | hostUnreachable => 4
  | connectionRefused => 5
  | ttlExpired => 6
  | commandNotSupported => 7
  | addressTypeNotSupported => 8
  | requestRejected => 91
  | noIdentd => 92
  | identdMismatch => 93
  | unknownReplyCode => 200
  | authFailed => 201
  | userCancelled => 202
  | badAddressType => 203
  | badReplyVersion => 204
  | badVersion => 205
  | noAcceptableMethods => 206
  | hostnameTooLong => 207
  | credentialsTooLong => 208
  | noUsername => 209
  | notAwaitingCredentials => 210

def message : SocksFailure → String
  | generalFailure => "SOCKS server general failure"
  | rulesetDenied => "Connection denied by SOCKS ruleset"
  | networkUnreachable => "SOCKS: Network unreachable"
  | hostUnreachable => "SOCKS: Host unreachable"
  | connectionRefused => "SOCKS: Connection refused"
  | ttlExpired => "SOCKS: TTL expired"
  | commandNotSupported => "SOCKS: Command not supported"
  | addressTypeNotSupported => "SOCKS: Address type not supported"
  | requestRejected => "SOCKS: Request rejected or failed"
  | noIdentd => "SOCKS: Rejected - unable to contact identd"
  | identdMismatch => "SOCKS: Rejected - identd reports different user-id"
  | unknownReplyCode => "Unknown SOCKS reply code"
  | authFailed => "SOCKS authentication failed"
  | userCancelled => "SOCKS authentication canceled by user"
  | badAddressType => "Unknown SOCKS address type returned"
  | badReplyVersion => "Unknown SOCKS reply version code"
  | badVersion => "Unknown SOCKS server version"
  | noAcceptableMethods => "SOCKS server rejected all offered methods"
  | hostnameTooLong => "SOCKS: Hostname too long for CONNECT request"
  | credentialsTooLong => "SOCKS: Username or password too long"
  | noUsername => "SOCKS: Unable to determine local user name"
  | notAwaitingCredentials => "SOCKS: Credentials supplied when none were requested"

end SocksFailure

namespace LinkFailure

def all : List LinkFailure := [bufferFull, closedByPeer, socketException]

def code : LinkFailure → Nat
  | bufferFull => 1
  | closedByPeer => 2
  | socketException => 3

def message : LinkFailure → String
  | bufferFull => "Connection dropped due to full buffer"
  | closedByPeer => "Connection closed by remote host"
  | socketException => "Exceptional condition on socket"

end LinkFailure

namespace Failure

inductive Domain where
  | os
  | resolve
  | socks
  | link
  deriving DecidableEq, Repr

def domain : Failure → Domain
  | os _ => .os
  | resolve _ => .resolve
  | socks _ => .socks
  | link _ => .link

def code : Failure → Int
  | os code => code
  | resolve cause => cause.code
  | socks cause => cause.code
  | link cause => cause.code

def ofParts : Domain → Int → Option Failure
  | .os, n => some (.os n)
  | .resolve, n => (ResolveFailure.all.find? fun cause => (cause.code : Int) == n).map .resolve
  | .socks, n => (SocksFailure.all.find? fun cause => (cause.code : Int) == n).map .socks
  | .link, n => (LinkFailure.all.find? fun cause => (cause.code : Int) == n).map .link

def message : Failure → String
  | os code => Errno.describe code
  | resolve cause => cause.message
  | socks cause => cause.message
  | link cause => cause.message

theorem ofParts_domain_code (f : Failure) : ofParts f.domain f.code = some f := by
  cases f with
  | os code => rfl
  | resolve cause => cases cause <;> rfl
  | socks cause => cases cause <;> rfl
  | link cause => cases cause <;> rfl

end Failure

end LineTunnel
