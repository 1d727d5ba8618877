import LineTunnel.Socks.Frame

/-! The requests of a client as a proxy reads them off the front of what it has received. -/

namespace LineTunnel.Socks

structure AddressRequest where
  ip : Ipv4
  port : UInt16
  user : Bytes
  deriving DecidableEq, Repr

inductive Request where
  | methods (offered : Bytes)
  | credentials (user password : String)
  | tunnel (host : String) (port : UInt16)
  deriving DecidableEq, Repr

namespace Frame

def cutAtZero : Bytes → Option (Bytes × Bytes)
  | [] => none
  | b :: bs => if b = 0 then some ([], bs) else (cutAtZero bs).map fun (x, rest) => (b :: x, rest)

def readByAddress : Bytes → Option (AddressRequest × Bytes)
  | version :: command :: high :: low :: a :: b :: c :: d :: bs =>
    if version = 4 ∧ command = 1 then
      (cutAtZero bs).map fun (user, rest) => (⟨⟨a, b, c, d⟩, ofBigEndian high low, user⟩, rest)
    else none
  | _ => none

def readField : Bytes → Option (Bytes × Bytes)
  | size :: bs =>
    if size.toNat ≤ bs.length then some (bs.take size.toNat, bs.drop size.toNat) else none
  | [] => none

def readText (bs : Bytes) : Option (String × Bytes) := do
  let (field, rest) ← readField bs
  let text ← String.fromUTF8? ⟨field.toArray⟩
  return (text, rest)

def readPort : Bytes → Option (UInt16 × Bytes)
  | high :: low :: rest => some (ofBigEndian high low, rest)
  | _ => none

def readMethods : Bytes → Option (Bytes × Bytes)
  | version :: bs => if version = 5 then readField bs else none
  | [] => none

def readCredentials : Bytes → Option ((String × String) × Bytes)
  | version :: bs =>
    if version = 1 then do
      let (user, bs) ← readText bs
      let (password, rest) ← readText bs
      return ((user, password), rest)
    else none
  | [] => none

def readByName : Bytes → Option ((String × UInt16) × Bytes)
  | version :: command :: reserved :: kind :: bs =>
    if version = 5 ∧ command = 1 ∧ reserved = 0 ∧ kind = 3 then do
      let (host, bs) ← readText bs
      let (port, rest) ← readPort bs
      return ((host, port), rest)
    else none
  | _ => none

def readNext (bs : Bytes) : Option (Request × Bytes) :=
  if bs.head? = some 1 then
    (readCredentials bs).map fun ((user, password), rest) => (.credentials user password, rest)
  else (readByName bs).map fun ((host, port), rest) => (.tunnel host port, rest)

theorem length_of_readField {bs field rest : Bytes} (h : readField bs = some (field, rest)) :
    rest.length < bs.length := by
  unfold readField at h
  split at h
  · split at h
    · cases h
      rw [List.length_drop, List.length_cons]
      omega
    · cases h
  · cases h

theorem length_of_readText {bs rest : Bytes} {text : String}
    (h : readText bs = some (text, rest)) : rest.length < bs.length := by
  simp only [readText, Option.bind_eq_bind, Option.bind_eq_some_iff] at h
  obtain ⟨⟨field, rest'⟩, hfield, text', -, hrest⟩ := h
  cases hrest
  exact length_of_readField hfield

theorem length_of_readPort {bs rest : Bytes} {port : UInt16}
    (h : readPort bs = some (port, rest)) : rest.length < bs.length := by
  unfold readPort at h
  split at h <;> cases h
  simp only [List.length_cons]
  omega

theorem length_of_readCredentials {bs rest : Bytes} {pair : String × String}
    (h : readCredentials bs = some (pair, rest)) : rest.length < bs.length := by
  unfold readCredentials at h
  split at h
  · next version bs =>
    split at h
    · simp only [Option.bind_eq_bind, Option.bind_eq_some_iff] at h
      obtain ⟨⟨user, behind⟩, huser, ⟨password, rest'⟩, hpassword, hrest⟩ := h
      cases hrest
      have hfirst : behind.length < bs.length := length_of_readText huser
      have hsecond : rest'.length < behind.length := length_of_readText hpassword
      change rest'.length < bs.length + 1
      omega
    · cases h
  · cases h

theorem length_of_readByName {bs rest : Bytes} {target : String × UInt16}
    (h : readByName bs = some (target, rest)) : rest.length < bs.length := by
  unfold readByName at h
  split at h
  · next version command reserved kind bs =>
    split at h
    · simp only [Option.bind_eq_bind, Option.bind_eq_some_iff] at h
      obtain ⟨⟨host, behind⟩, hhost, ⟨port, rest'⟩, hport, hrest⟩ := h
      cases hrest
      have hfirst : behind.length < bs.length := length_of_readText hhost
      have hsecond : rest'.length < behind.length := length_of_readPort hport
      change rest'.length < bs.length + 4
      omega
    · cases h
  · cases h

theorem length_of_readNext {bs rest : Bytes} {request : Request}
    (h : readNext bs = some (request, rest)) : rest.length < bs.length := by
  unfold readNext at h
  split at h
  · obtain ⟨⟨pair, rest'⟩, hread, hrest⟩ := Option.map_eq_some_iff.1 h
    cases hrest
    exact length_of_readCredentials hread
  · obtain ⟨⟨target, rest'⟩, hread, hrest⟩ := Option.map_eq_some_iff.1 h
    cases hrest
    exact length_of_readByName hread

def readOthers (bs : Bytes) : Option (List Request) :=
  if bs = [] then some []
  else
    match _h : readNext bs with
    | none => none
    | some (request, rest) => (readOthers rest).map (request :: ·)
termination_by bs.length
decreasing_by exact length_of_readNext _h

def readRequests (bs : Bytes) : Option (List Request) :=
  if bs = [] then some []
  else do
    let (offered, rest) ← readMethods bs
    return .methods offered :: (← readOthers rest)

end Frame

end LineTunnel.Socks
