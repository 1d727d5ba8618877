import LineTunnel.Bytes

/-! Network addresses as texts. IPv4 addresses are read and written; of IPv6 addresses only the
shape is recognised, since nothing here connects to one. -/

namespace LineTunnel

structure Ipv4 where
  a : UInt8
  b : UInt8
  c : UInt8
  d : UInt8
  deriving DecidableEq, Repr

namespace Ipv4

def octets (ip : Ipv4) : Bytes := [ip.a, ip.b, ip.c, ip.d]

def parseOctet (digits : List Char) : Option UInt8 :=
  if digits.isEmpty || 3 < digits.length || !digits.all Char.isDigit then none
  else if digits.head? = some '0' ∧ digits ≠ ['0'] then none
  else
    let n := digits.foldl (fun n c => 10 * n + (c.toNat - '0'.toNat)) 0
    if n ≤ 255 then some n.toUInt8 else none

def ofChars (text : List Char) : Option Ipv4 :=
  match (text.splitOn '.').map parseOctet with
  | [some a, some b, some c, some d] => some ⟨a, b, c, d⟩
  | _ => none

def parse (s : String) : Option Ipv4 := ofChars s.toList

instance : ToString Ipv4 where
  toString ip := s!"{ip.a}.{ip.b}.{ip.c}.{ip.d}"

end Ipv4

def isHexGroup (digits : List Char) : Bool :=
  1 ≤ digits.length && digits.length ≤ 4 &&
    digits.all fun c => c.isDigit || ('a' ≤ c && c ≤ 'f') || ('A' ≤ c && c ≤ 'F')

def hexGroups (dotted : Bool) : List (List Char) → Option Nat
  | [] => some 0
  | [last] =>
    if isHexGroup last then some 1
    else if dotted && (Ipv4.ofChars last).isSome then some 2
    else none
  | group :: rest =>
    if isHexGroup group then (hexGroups dotted rest).map (· + 1) else none

def cutAtDoubleColon : List Char → Option (List Char × List Char)
  | ':' :: ':' :: back => some ([], back)
  | c :: text => (cutAtDoubleColon text).map fun (front, back) => (c :: front, back)
  | [] => none

def isIpv6 (s : String) : Bool :=
  let groups (dotted : Bool) (text : List Char) :=
    if text.isEmpty then some 0 else hexGroups dotted (text.splitOn ':')
  match cutAtDoubleColon s.toList with
  | none => groups true s.toList == some 8
  | some (front, back) =>
    match groups false front, groups true back with
    | some m, some n => m + n ≤ 7
    | _, _ => false

end LineTunnel
