import LineTunnel.Toml.Value

/-! TOML values that are a single word: booleans, integers, floats and dates. -/

namespace LineTunnel.Toml.Scalar

def isWordChar (c : Char) : Bool :=
  c.isAlphanum || c == '_' || c == '+' || c == '-' || c == '.' || c == ':'

/-! ### Integers -/

def digitValue (base : Nat) (c : Char) : Option Nat :=
  let n :=
    if c.isDigit then c.toNat - '0'.toNat
    else if 'a' ≤ c ∧ c ≤ 'f' then c.toNat - 'a'.toNat + 10
    else if 'A' ≤ c ∧ c ≤ 'F' then c.toNat - 'A'.toNat + 10
    else base
  if n < base then some n else none

def digits (base : Nat) : List Char → Option (List Nat)
  | [] => none
  | [c] => do return [← digitValue base c]
  | c :: '_' :: rest => do
    let d ← digitValue base c
    return d :: (← digits base rest)
  | c :: rest => do
    let d ← digitValue base c
    return d :: (← digits base rest)

def number (base : Nat) (ds : List Nat) : Nat := ds.foldl (fun n d => base * n + d) 0

def decimalDigits (cs : List Char) : Option (List Nat) := do
  let ds ← digits 10 cs
  if ds.head? = some 0 ∧ 1 < ds.length then none else some ds

def sign : List Char → Bool × List Char
  | '+' :: cs => (false, cs)
  | '-' :: cs => (true, cs)
  | cs => (false, cs)

def signed (negative : Bool) (n : Nat) : Int := if negative then -n else n

def inRange (n : Int) : Bool := -0x8000000000000000 ≤ n && n < 0x8000000000000000

def integer? (cs : List Char) : Option Int := do
  let n : Int ← match cs with
    | '0' :: 'x' :: r => do pure (number 16 (← digits 16 r) : Int)
    | '0' :: 'o' :: r => do pure (number 8 (← digits 8 r) : Int)
    | '0' :: 'b' :: r => do pure (number 2 (← digits 2 r) : Int)
    | _ => do
      let (negative, cs) := sign cs
      pure (signed negative (number 10 (← decimalDigits cs)))
  if inRange n then some n else none

/-! ### Floats -/

def infinite : Nat := Nat.pow 2 1024 - Nat.pow 2 970

def overflows (n : Nat) (e : Int) : Bool :=
  if n = 0 then false
  else
    let magnitude := (Nat.toDigits 10 n).length + e
    if magnitude < 309 then false
    else if 309 < magnitude then true
    else if 0 ≤ e then infinite ≤ n * Nat.pow 10 e.toNat
    else infinite * Nat.pow 10 (-e).toNat ≤ n

def splitAt? (p : Char → Bool) (cs : List Char) : List Char × Option (List Char) :=
  match cs.dropWhile (!p ·) with
  | [] => (cs, none)
  | _ :: rest => (cs.takeWhile (!p ·), some rest)

def isFloat (cs : List Char) : Bool :=
  let (negative, body) := sign cs
  if body = ['i', 'n', 'f'] ∨ body = ['n', 'a', 'n'] then true
  else
    let (mantissa, exponent) := splitAt? (fun c => c == 'e' || c == 'E') body
    let (whole, fraction) := splitAt? (· == '.') mantissa
    let exponentValue : Option Int := match exponent with
      | none => some 0
      | some e => do
        let (down, e) := sign e
        return signed down (number 10 (← digits 10 e))
    let fractionDigits : Option (List Nat) := match fraction with
      | none => some []
      | some f => digits 10 f
    match decimalDigits whole, fractionDigits, exponentValue with
    | some ws, some fs, some e =>
      (fraction.isSome || exponent.isSome) &&
        (negative || !overflows (number 10 (ws ++ fs)) (e - fs.length))
    | _, _, _ => false

/-! ### Dates -/

def pair : List Char → Option (Nat × List Char)
  | a :: b :: r =>
    if a.isDigit && b.isDigit then some (10 * (a.toNat - '0'.toNat) + (b.toNat - '0'.toNat), r)
    else none
  | _ => none

def expect (c : Char) : List Char → Option (List Char)
  | d :: r => if d = c then some r else none
  | [] => none

def monthLength (year month : Nat) : Nat :=
  if month = 2 then
    if year % 4 = 0 ∧ (year % 100 ≠ 0 ∨ year % 400 = 0) then 29 else 28
  else if month = 4 ∨ month = 6 ∨ month = 9 ∨ month = 11 then 30
  else 31

def date (cs : List Char) : Option (List Char) := do
  let (century, r) ← pair cs
  let (year, r) ← pair r
  let (month, r) ← pair (← expect '-' r)
  let (day, r) ← pair (← expect '-' r)
  if 1 ≤ month ∧ month ≤ 12 ∧ 1 ≤ day ∧ day ≤ monthLength (100 * century + year) month then some r
  else none

def time (cs : List Char) : Option (List Char) := do
  let (hour, r) ← pair cs
  let (minute, r) ← pair (← expect ':' r)
  let (second, r) ← pair (← expect ':' r)
  if hour ≤ 23 ∧ minute ≤ 59 ∧ second ≤ 60 then
    match r with
    | '.' :: c :: r => if c.isDigit then some (r.dropWhile Char.isDigit) else none
    | '.' :: [] => none
    | r => some r
  else none

def isOffset : List Char → Bool
  | [] => true
  | ['Z'] => true
  | ['z'] => true
  | c :: r =>
    if c = '+' ∨ c = '-' then
      match (do
        let (hour, r) ← pair r
        let (minute, r) ← pair (← expect ':' r)
        return (hour, minute, r)) with
      | some (hour, minute, []) => hour ≤ 23 && minute ≤ 59
      | _ => false
    else false

def isDate (cs : List Char) : Bool := date cs == some []

def isTimeWithOffset (cs : List Char) : Bool := (time cs).any isOffset

def isDatetime (cs : List Char) : Bool :=
  time cs == some [] ||
    match date cs with
    | some [] => true
    | some (c :: r) => (c == 'T' || c == 't') && isTimeWithOffset r
    | none => false

/-! ### Words -/

def ofWord (cs : List Char) : Option Value :=
  if cs = ['t', 'r', 'u', 'e'] then some (.boolean true)
  else if cs = ['f', 'a', 'l', 's', 'e'] then some (.boolean false)
  else
    match integer? cs with
    | some n => some (.integer n)
    | none =>
      if isFloat cs then some (.float (String.ofList cs))
      else if isDatetime cs then some (.datetime (String.ofList cs))
      else none

def read (cs : List Char) : Option (Value × List Char) :=
  let word := cs.takeWhile isWordChar
  let rest := cs.dropWhile isWordChar
  match rest with
  | ' ' :: r =>
    let next := r.takeWhile isWordChar
    if isDate word && isTimeWithOffset next then
      some (.datetime (String.ofList (word ++ ' ' :: next)), r.dropWhile isWordChar)
    else (ofWord word).map (·, rest)
  | _ => (ofWord word).map (·, rest)

end LineTunnel.Toml.Scalar
