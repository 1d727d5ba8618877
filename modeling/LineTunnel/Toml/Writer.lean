import LineTunnel.Toml.Text

/-! Writing TOML documents that consist of headed tables with plain values. A blank line parts the
tables. -/

namespace LineTunnel.Toml

inductive Plain where
  | string (text : String)
  | integer (n : Nat)
  | boolean (b : Bool)
  deriving DecidableEq, Repr

structure Section where
  name : String
  entries : List (String × Plain)
  deriving DecidableEq, Repr

namespace Plain

def write : Plain → List Char
  | string text => Text.write text.toList
  | integer n => Nat.toDigits 10 n
  | boolean true => ['t', 'r', 'u', 'e']
  | boolean false => ['f', 'a', 'l', 's', 'e']

end Plain

namespace Section

def writeEntry (entry : String × Plain) : List Char :=
  entry.1.toList ++ [' ', '=', ' '] ++ entry.2.write ++ ['\n']

def write (s : Section) : List Char :=
  ['['] ++ s.name.toList ++ [']', '\n'] ++ s.entries.flatMap writeEntry

def writeAll (sections : List Section) : String :=
  String.ofList (['\n'].intercalate (sections.map write))

end Section

end LineTunnel.Toml
