/-! TOML values, and how the statements of a document add to a table. A table remembers how it came
to be, since that decides which later statements may add to it. -/

namespace LineTunnel.Toml

inductive Origin where
  | header
  | implied
  | dotted
  | inline
  deriving DecidableEq, Repr

inductive Value where
  | string (text : String)
  | integer (n : Int)
  | boolean (b : Bool)
  | float (text : String)
  | datetime (text : String)
  | array (grows : Bool) (items : List Value)
  | table (origin : Origin) (entries : List (String × Value))
  deriving Repr

abbrev Table := List (String × Value)

abbrev Key := List String

namespace Table

def get? (t : Table) (name : String) : Option Value := t.lookup name

def set (t : Table) (name : String) (v : Value) : Table :=
  if (t.get? name).isSome then t.map fun e => if e.1 == name then (name, v) else e
  else t ++ [(name, v)]

def atHeader (change : Table → Option Table) : Key → Table → Option Table
  | [], t => change t
  | name :: path, t =>
    match t.get? name with
    | none => do
      let inner ← atHeader change path []
      return t.set name (.table .implied inner)
    | some (.table origin entries) =>
      if origin = .inline then none
      else do
        let inner ← atHeader change path entries
        return t.set name (.table origin inner)
    | some (.array true items) =>
      match items.getLast? with
      | some (.table origin entries) => do
        let inner ← atHeader change path entries
        return t.set name (.array true (items.dropLast ++ [.table origin inner]))
      | _ => none
    | some _ => none

def openTable (path : Key) (name : String) : Table → Option Table :=
  atHeader (fun t =>
    match t.get? name with
    | none => some (t.set name (.table .header []))
    | some (.table .implied entries) => some (t.set name (.table .header entries))
    | some _ => none) path

def openItem (path : Key) (name : String) : Table → Option Table :=
  atHeader (fun t =>
    match t.get? name with
    | none => some (t.set name (.array true [.table .header []]))
    | some (.array true items) => some (t.set name (.array true (items ++ [.table .header []])))
    | some _ => none) path

def add (v : Value) (name : String) : Key → Table → Option Table
  | [], t => if (t.get? name).isSome then none else some (t.set name v)
  | part :: path, t =>
    match t.get? part with
    | none => do
      let inner ← add v name path []
      return t.set part (.table .dotted inner)
    | some (.table origin entries) =>
      if origin = .inline ∨ origin = .header ∨ (path = [] ∧ origin ≠ .dotted) then none
      else do
        let inner ← add v name path entries
        return t.set part (.table origin inner)
    | some (.array true items) =>
      match items.getLast? with
      | some (.table origin entries) =>
        if path = [] then none
        else do
          let inner ← add v name path entries
          return t.set part (.array true (items.dropLast ++ [.table origin inner]))
      | _ => none
    | some _ => none

end Table

end LineTunnel.Toml
