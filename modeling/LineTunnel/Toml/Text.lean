/-! The text of TOML strings. There are four forms: in quotes, with escapes, or in apostrophes,
without, and each of them on one line or on several. Writing picks a form that needs no escape, if
there is one. -/

namespace LineTunnel.Toml.Text

def isControl (c : Char) : Bool := (c.toNat < 32 && c != '\t' && c != '\n') || c.toNat == 127

def isPlain (c : Char) : Bool := !isControl c && c != '\n'

def isBlank (c : Char) : Bool := c == ' ' || c == '\t'

/-! ### Writing -/

def longestRun (q : Char) (cs : List Char) : Nat :=
  (cs.foldl (fun (run, best) c =>
    let run := if c == q then run + 1 else 0
    (run, max run best)) (0, 0)).2

def hexDigit (n : Nat) : Char :=
  if n < 10 then Char.ofNat ('0'.toNat + n) else Char.ofNat ('A'.toNat + (n - 10))

def escape (c : Char) : List Char :=
  if c = '\x08' then ['\\', 'b']
  else if c = '\t' then ['\\', 't']
  else if c = '\n' then ['\\', 'n']
  else if c = '\x0c' then ['\\', 'f']
  else if c = '\r' then ['\\', 'r']
  else if c = '"' then ['\\', '"']
  else if c = '\\' then ['\\', '\\']
  else if isControl c then
    ['\\', 'u', '0', '0', hexDigit (c.toNat / 16), hexDigit (c.toNat % 16)]
  else [c]

def escapeLine (cs : List Char) : List Char := cs.flatMap escape

/-- The inside of a string in quotes on several lines: every third quote of a run is escaped. -/
def escapeLines : (run : Nat) → List Char → List Char
  | _, [] => []
  | run, c :: cs =>
    if c = '"' then
      if run < 2 then c :: escapeLines (run + 1) cs else '\\' :: '"' :: escapeLines 0 cs
    else if c = '\n' then c :: escapeLines 0 cs
    else escape c ++ escapeLines 0 cs

inductive Form where
  | quoted
  | literal
  | quotedLines
  | literalLines
  deriving DecidableEq, Repr

def form (cs : List Char) : Form :=
  let controls := cs.any isControl
  let backslash := cs.contains '\\'
  let newline := cs.contains '\n'
  let quotes := longestRun '"' cs
  let apostrophes := longestRun '\'' cs
  if !controls && !backslash && !newline && quotes == 0 then .quoted
  else if !controls && !newline && apostrophes == 0 then .literal
  else if !controls && !backslash && quotes ≤ 2 then .quotedLines
  else if !controls && apostrophes ≤ 2 then .literalLines
  else if newline then .quotedLines
  else .quoted

def lead (cs : List Char) : List Char := if cs.contains '\n' then ['\n'] else []

def write (cs : List Char) : List Char :=
  match form cs with
  | .quoted => ['"'] ++ escapeLine cs ++ ['"']
  | .literal => ['\''] ++ cs ++ ['\'']
  | .quotedLines => ['"', '"', '"'] ++ lead cs ++ escapeLines 0 cs ++ ['"', '"', '"']
  | .literalLines => ['\'', '\'', '\''] ++ lead cs ++ cs ++ ['\'', '\'', '\'']

/-! ### Reading -/

def hexValue (c : Char) : Option Nat :=
  if c.isDigit then some (c.toNat - '0'.toNat)
  else if 'a' ≤ c ∧ c ≤ 'f' then some (c.toNat - 'a'.toNat + 10)
  else if 'A' ≤ c ∧ c ≤ 'F' then some (c.toNat - 'A'.toNat + 10)
  else none

def codePoint (digits : List Char) : Option Char := do
  let values ← digits.mapM hexValue
  let n := values.foldl (fun n d => 16 * n + d) 0
  if n.isValidChar then some (Char.ofNat n) else none

def unescape (c : Char) : Option Char :=
  if c = 'b' then some '\x08'
  else if c = 't' then some '\t'
  else if c = 'n' then some '\n'
  else if c = 'f' then some '\x0c'
  else if c = 'r' then some '\r'
  else if c = '"' then some '"'
  else if c = '\\' then some '\\'
  else none

def cons (c : Option Char) (r : Option (List Char × List Char)) :
    Option (List Char × List Char) := do
  let c ← c
  let (cs, rest) ← r
  return (c :: cs, rest)

def readLine : List Char → Option (List Char × List Char)
  | [] => none
  | '"' :: r => some ([], r)
  | '\\' :: 'u' :: a :: b :: c :: d :: r => cons (codePoint [a, b, c, d]) (readLine r)
  | '\\' :: 'U' :: a :: b :: c :: d :: e :: f :: g :: h :: r =>
    cons (codePoint [a, b, c, d, e, f, g, h]) (readLine r)
  | '\\' :: c :: r => cons (unescape c) (readLine r)
  | c :: r => if isPlain c then cons (some c) (readLine r) else none

def readLiteral : List Char → Option (List Char × List Char)
  | [] => none
  | '\'' :: r => some ([], r)
  | c :: r => if isPlain c then cons (some c) (readLiteral r) else none

def endsLine (cs : List Char) : Bool :=
  match cs.dropWhile isBlank with
  | '\n' :: _ => true
  | '\r' :: '\n' :: _ => true
  | _ => false

def readLines : (dropping : Bool) → List Char → Option (List Char × List Char)
  | _, [] => none
  | _, '"' :: '"' :: '"' :: '"' :: '"' :: r => some (['"', '"'], r)
  | _, '"' :: '"' :: '"' :: '"' :: r => some (['"'], r)
  | _, '"' :: '"' :: '"' :: r => some ([], r)
  | _, '"' :: r => cons (some '"') (readLines false r)
  | _, '\\' :: 'u' :: a :: b :: c :: d :: r => cons (codePoint [a, b, c, d]) (readLines false r)
  | _, '\\' :: 'U' :: a :: b :: c :: d :: e :: f :: g :: h :: r =>
    cons (codePoint [a, b, c, d, e, f, g, h]) (readLines false r)
  | _, '\\' :: c :: r =>
    if endsLine (c :: r) then readLines true r else cons (unescape c) (readLines false r)
  | dropping, '\r' :: '\n' :: r =>
    if dropping then readLines true r else cons (some '\n') (readLines false r)
  | dropping, c :: r =>
    if dropping && (isBlank c || c == '\n') then readLines true r
    else if isPlain c || c == '\n' then cons (some c) (readLines false r)
    else none

def readLiteralLines : List Char → Option (List Char × List Char)
  | [] => none
  | '\'' :: '\'' :: '\'' :: '\'' :: '\'' :: r => some (['\'', '\''], r)
  | '\'' :: '\'' :: '\'' :: '\'' :: r => some (['\''], r)
  | '\'' :: '\'' :: '\'' :: r => some ([], r)
  | '\r' :: '\n' :: r => cons (some '\n') (readLiteralLines r)
  | c :: r => if isPlain c || c == '\n' then cons (some c) (readLiteralLines r) else none

def dropNewline : List Char → List Char
  | '\n' :: r => r
  | '\r' :: '\n' :: r => r
  | r => r

def readShort : List Char → Option (List Char × List Char)
  | '"' :: r => readLine r
  | '\'' :: r => readLiteral r
  | _ => none

def read : List Char → Option (List Char × List Char)
  | '"' :: '"' :: '"' :: r => readLines false (dropNewline r)
  | '\'' :: '\'' :: '\'' :: r => readLiteralLines (dropNewline r)
  | cs => readShort cs

end LineTunnel.Toml.Text
