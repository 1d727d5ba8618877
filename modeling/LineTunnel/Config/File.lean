import LineTunnel.Config.Document
import LineTunnel.SessionError

/-! Configurations in files. A file that is not there is created with the defaults. -/

namespace LineTunnel

inductive Place where
  | file (content : Bytes)
  | free
  | missing (errno : Int)
  | unusable (errno : Int)
  deriving DecidableEq, Repr

namespace Config

def save (c : Config) (place : Place) : Except SessionError Unit × Place :=
  match c.write with
  | .error e => (.error (.config e), place)
  | .ok text =>
    match place with
    | .file _ | .free => (.ok (), .file (utf8 text))
    | .missing errno | .unusable errno => (.error (.file (.errno errno)), place)

def ofContent (content : Bytes) : Except SessionError Config :=
  match String.fromUTF8? ⟨content.toArray⟩ with
  | none => .error (.file .notUtf8)
  | some text => (read text).mapError .config

def loadOrCreate (place : Place) : Except SessionError Config × Place :=
  match place with
  | .file content => (ofContent content, place)
  | .unusable errno => (.error (.file (.errno errno)), place)
  | .free | .missing _ =>
    match save {} place with
    | (.ok (), place) => (.ok {}, place)
    | (.error e, place) => (.error e, place)

end Config

end LineTunnel
