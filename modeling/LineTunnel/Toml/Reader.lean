import LineTunnel.Toml.Scalar
import LineTunnel.Toml.Text

/-! Reading TOML documents. A document is a list of statements: headers, which open tables, and
values under keys, which add to the table that was opened last. -/

namespace LineTunnel.Toml.Reader

def depthLimit : Nat := 79

def skipBlanks (cs : List Char) : List Char := cs.dropWhile Text.isBlank

def skipComment : List Char → List Char
  | '#' :: r => r.dropWhile Text.isPlain
  | cs => cs

def skipLines : (inComment : Bool) → List Char → List Char
  | _, [] => []
  | _, '\n' :: r => skipLines false r
  | _, '\r' :: '\n' :: r => skipLines false r
  | true, c :: r => if Text.isPlain c then skipLines true r else c :: r
  | false, c :: r =>
    if Text.isBlank c then skipLines false r
    else if c = '#' then skipLines true r
    else c :: r

def lineEnd (cs : List Char) : Option (List Char) :=
  match skipComment (skipBlanks cs) with
  | [] => some []
  | '\n' :: r => some r
  | '\r' :: '\n' :: r => some r
  | _ => none

def isBareKeyChar (c : Char) : Bool := c.isAlphanum || c == '_' || c == '-'

def keyPart (cs : List Char) : Option (String × List Char) :=
  match cs.takeWhile isBareKeyChar with
  | [] => (Text.readShort cs).map fun (name, r) => (String.ofList name, r)
  | word => some (String.ofList word, cs.dropWhile isBareKeyChar)

def key : (limit : Nat) → List Char → Option (Key × List Char)
  | 0, _ => none
  | limit + 1, cs => do
    let (name, r) ← keyPart (skipBlanks cs)
    match skipBlanks r with
    | '.' :: r =>
      let (path, r) ← key limit r
      return (name :: path, r)
    | r => return ([name], r)

abbrev Parser (α : Type) := List Char → Option (α × List Char)

def items (value : Parser Value) : (fuel : Nat) → Parser (List Value)
  | 0, _ => none
  | fuel + 1, cs =>
    match skipLines false cs with
    | ']' :: r => some ([], r)
    | cs => do
      let (v, r) ← value cs
      match skipLines false r with
      | ',' :: r =>
        let (vs, r) ← items value fuel r
        return (v :: vs, r)
      | ']' :: r => return ([v], r)
      | _ => none

def entry (value : Parser Value) : Parser (Key × Value) := fun cs => do
  let (path, r) ← key depthLimit cs
  match r with
  | '=' :: r =>
    let (v, r) ← value (skipBlanks r)
    return ((path, v), r)
  | _ => none

def addEntry (path : Key) (v : Value) (t : Table) : Option Table := do
  let name ← path.getLast?
  t.add v name path.dropLast

def entries (value : Parser Value) : (fuel : Nat) → Table → Parser Table
  | 0, _, _ => none
  | fuel + 1, t, cs => do
    let ((path, v), r) ← entry value cs
    let t ← addEntry path v t
    match skipBlanks r with
    | ',' :: r => entries value fuel t r
    | '}' :: r => return (t, r)
    | _ => none

def value : (limit : Nat) → Parser Value
  | limit, cs =>
    match limit, cs with
    | _, '"' :: _ => (Text.read cs).map fun (s, r) => (.string (String.ofList s), r)
    | _, '\'' :: _ => (Text.read cs).map fun (s, r) => (.string (String.ofList s), r)
    | 0, '[' :: _ => none
    | 0, '{' :: _ => none
    | limit + 1, '[' :: r =>
      (items (value limit) (r.length + 1) r).map fun (vs, r) => (.array false vs, r)
    | limit + 1, '{' :: r =>
      match skipBlanks r with
      | '}' :: r => some (.table .inline [], r)
      | r => (entries (value limit) (r.length + 1) [] r).map fun (t, r) => (.table .inline t, r)
    | _, _ => Scalar.read cs
termination_by structural limit => limit

structure Progress where
  table : Table := []
  header : Key := []

def statement (p : Progress) (cs : List Char) : Option (Progress × List Char) :=
  match skipBlanks cs with
  | '[' :: '[' :: r => do
    let (path, r) ← key depthLimit r
    match r with
    | ']' :: ']' :: r =>
      let name ← path.getLast?
      let table ← p.table.openItem path.dropLast name
      return ({ table, header := path }, ← lineEnd r)
    | _ => none
  | '[' :: r => do
    let (path, r) ← key depthLimit r
    match r with
    | ']' :: r =>
      let name ← path.getLast?
      let table ← p.table.openTable path.dropLast name
      return ({ table, header := path }, ← lineEnd r)
    | _ => none
  | cs =>
    match lineEnd cs with
    | some r => some (p, r)
    | none => do
      let ((path, v), r) ← entry (value depthLimit) cs
      let table ← p.table.atHeader (addEntry path v) p.header
      return ({ p with table }, ← lineEnd r)

def statements : (fuel : Nat) → Progress → List Char → Option Table
  | _, p, [] => some p.table
  | 0, _, _ => none
  | fuel + 1, p, cs => do
    let (p, r) ← statement p cs
    statements fuel p r

def document (text : String) : Option Table :=
  let cs := match text.toList with
    | '\uFEFF' :: r => r
    | cs => cs
  statements cs.length {} cs

end LineTunnel.Toml.Reader
