import LineTunnel.Bytes

/-! Texts at the edge of the program: the lines of its input, bytes shown as text, and a text quoted
for a diagnostic. -/

namespace LineTunnel.Text

def lines (s : String) : List String :=
  let parts := s.splitOn "\n"
  parts.dropLast.map (fun line => (line.dropSuffix "\r").toString)
    ++ parts.getLast?.toList.filter (· != "")

def lines? (bs : Bytes) : Option (List String) :=
  (String.fromUTF8? ⟨bs.toArray⟩).map lines

def lead (b : UInt8) : Option (Nat × UInt8 × UInt8) :=
  if b < 0xC2 then none
  else if b < 0xE0 then some (1, 0x80, 0xBF)
  else if b = 0xE0 then some (2, 0xA0, 0xBF)
  else if b = 0xED then some (2, 0x80, 0x9F)
  else if b < 0xF0 then some (2, 0x80, 0xBF)
  else if b = 0xF0 then some (3, 0x90, 0xBF)
  else if b < 0xF4 then some (3, 0x80, 0xBF)
  else if b = 0xF4 then some (3, 0x80, 0x8F)
  else none

def isContinuation (b : UInt8) : Bool := 0x80 ≤ b && b ≤ 0xBF

def extend (n : Nat) (b : UInt8) : Nat := 64 * n + b.toNat % 64

def replacement : Char := '\uFFFD'

def decode : Bytes → List Char
  | [] => []
  | b :: r =>
    if b < 0x80 then Char.ofNat b.toNat :: decode r
    else
      match lead b with
      | none => replacement :: decode r
      | some (n, low, high) =>
        match r with
        | [] => [replacement]
        | c :: r' =>
          if c < low || high < c then replacement :: decode (c :: r')
          else if n = 1 then Char.ofNat (extend (b.toNat % 32) c) :: decode r'
          else
            match r' with
            | [] => [replacement]
            | d :: r'' =>
              if !isContinuation d then replacement :: decode (d :: r'')
              else if n = 2 then Char.ofNat (extend (extend (b.toNat % 16) c) d) :: decode r''
              else
                match r'' with
                | [] => [replacement]
                | e :: r''' =>
                  if !isContinuation e then replacement :: decode (e :: r''')
                  else Char.ofNat (extend (extend (extend (b.toNat % 8) c) d) e) :: decode r'''
termination_by bs => bs.length

def hexadecimal (n : Nat) : String := String.ofList (Nat.toDigits 16 n)

def escape (c : Char) : String :=
  if c = '"' then "\\\""
  else if c = '\\' then "\\\\"
  else if c = '\n' then "\\n"
  else if c = '\r' then "\\r"
  else if c = '\t' then "\\t"
  else if c = '\x00' then "\\0"
  else if c.toNat < 32 ∨ c.toNat = 127 then "\\u\x7b" ++ hexadecimal c.toNat ++ "\x7d"
  else c.toString

def quote (s : String) : String := "\"" ++ String.join (s.toList.map escape) ++ "\""

end LineTunnel.Text
