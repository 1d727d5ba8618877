import LineTunnel.Socks.Request
import Mathlib.Data.List.Forall2

/-! The frames of version 5 say where they end. A proxy that reads one off the front of what it has
received gets back what was put in, and leaves what follows. So it can read one frame after another,
and there is one way only to read them. -/

namespace LineTunnel.Socks

namespace Frame

variable {user password host : String} {port : UInt16} {frame : Bytes}

theorem readField_cons {size : UInt8} {field : Bytes} (h : size.toNat = field.length)
    (rest : Bytes) : readField (size :: (field ++ rest)) = some (field, rest) := by
  have hfits : size.toNat ≤ (field ++ rest).length := by
    rw [h, List.length_append]
    exact Nat.le_add_right ..
  rw [readField, if_pos hfits, h, List.take_left, List.drop_left]

theorem readText_lengthPrefixed {s : String} (h : s.utf8ByteSize ≤ maxText) (rest : Bytes) :
    readText (lengthPrefixed s ++ rest) = some (s, rest) := by
  have hsize : s.utf8ByteSize.toUInt8.toNat = (utf8 s).length := by
    rw [length_utf8]
    exact Nat.mod_eq_of_lt (Nat.lt_succ_of_le h)
  rw [readText, lengthPrefixed, List.cons_append, readField_cons hsize]
  change (String.fromUTF8? ⟨(utf8 s).toArray⟩).bind _ = _
  rw [fromUTF8?_utf8]
  rfl

theorem readPort_bigEndian (port : UInt16) (rest : Bytes) :
    readPort (bigEndian port ++ rest) = some (port, rest) :=
  congrArg (fun n => some (n, rest)) (ofBigEndian_bytes port)

theorem readMethods_methods (offer : Bool) (rest : Bytes) :
    readMethods (methods offer ++ rest) = some (if offer then [0, 2] else [0], rest) := by
  cases offer with
  | false => exact @readField_cons 1 [0] rfl rest
  | true => exact @readField_cons 2 [0, 2] rfl rest

theorem readCredentials_append (h : credentials user password = .ok frame) (rest : Bytes) :
    readCredentials (frame ++ rest) = some ((user, password), rest) := by
  obtain ⟨⟨huser, hpassword⟩, rfl⟩ := credentials_eq_ok_iff.1 h
  rw [List.cons_append, List.cons_append, List.append_assoc, readCredentials, if_pos rfl,
    readText_lengthPrefixed huser]
  simp only [Option.bind_eq_bind, Option.bind_some, readText_lengthPrefixed hpassword]
  rfl

theorem readByName_append (h : connectByName host port = .ok frame) (rest : Bytes) :
    readByName (frame ++ rest) = some ((host, port), rest) := by
  obtain ⟨hhost, rfl⟩ := connectByName_eq_ok_iff.1 h
  rw [List.append_assoc, List.append_assoc]
  change readByName (5 :: 1 :: 0 :: 3 :: (lengthPrefixed host ++ (bigEndian port ++ rest))) = _
  rw [readByName, if_pos ⟨rfl, rfl, rfl, rfl⟩, readText_lengthPrefixed hhost]
  simp only [Option.bind_eq_bind, Option.bind_some, readPort_bigEndian]
  rfl

end Frame

inductive Request.Follows : Request → Bytes → Prop
  | credentials {user password : String} {frame : Bytes} :
      Frame.credentials user password = .ok frame → Follows (.credentials user password) frame
  | tunnel {host : String} {port : UInt16} {frame : Bytes} :
      Frame.connectByName host port = .ok frame → Follows (.tunnel host port) frame

inductive Spells : List Request → List Bytes → Prop
  | nothing : Spells [] []
  | offered (offer : Bool) {requests : List Request} {frames : List Bytes} :
      List.Forall₂ Request.Follows requests frames →
      Spells (.methods (if offer then [0, 2] else [0]) :: requests) (Frame.methods offer :: frames)

theorem Spells.append {requests requests' : List Request} {frames frames' : List Bytes}
    (h : Spells requests frames) (hne : frames ≠ [])
    (h' : List.Forall₂ Request.Follows requests' frames') :
    Spells (requests ++ requests') (frames ++ frames') := by
  cases h with
  | nothing => exact absurd rfl hne
  | offered offer h => exact .offered offer (List.rel_append h h')

namespace Frame

variable {request : Request} {requests : List Request} {frame : Bytes} {frames : List Bytes}

theorem readNext_append (h : request.Follows frame) (rest : Bytes) :
    readNext (frame ++ rest) = some (request, rest) := by
  unfold readNext
  cases h with
  | credentials hframe =>
    have hfirst : (frame ++ rest).head? = some 1 := by
      obtain ⟨others, rfl⟩ := exists_of_credentials hframe
      rfl
    rw [if_pos hfirst, readCredentials_append hframe]
    rfl
  | tunnel hframe =>
    have hfirst : (frame ++ rest).head? = some 5 := by
      obtain ⟨others, rfl⟩ := exists_of_connectByName hframe
      rfl
    rw [if_neg (by rw [hfirst]; decide), readByName_append hframe]
    rfl

theorem readOthers_of_next {bs rest : Bytes} (hne : bs ≠ [])
    (h : readNext bs = some (request, rest)) :
    readOthers bs = (readOthers rest).map (request :: ·) := by
  rw [readOthers, if_neg hne]
  split <;> simp_all

theorem readOthers_flatten (h : List.Forall₂ Request.Follows requests frames) :
    readOthers frames.flatten = some requests := by
  induction h with
  | nil =>
    rw [readOthers]
    rfl
  | @cons request frame requests frames hfirst hrest ih =>
    have hread := readNext_append hfirst frames.flatten
    have hne : frame ++ frames.flatten ≠ [] := by
      intro hnil
      rw [hnil] at hread
      cases hread
    rw [List.flatten_cons, readOthers_of_next hne hread, ih]
    rfl

theorem readRequests_flatten (h : Spells requests frames) :
    readRequests frames.flatten = some requests := by
  unfold readRequests
  cases h with
  | nothing => rfl
  | @offered offer requests frames hothers =>
    have hne : methods offer ++ frames.flatten ≠ [] := by
      cases offer <;> exact List.cons_ne_nil _ _
    rw [List.flatten_cons, if_neg hne, readMethods_methods]
    change (readOthers frames.flatten).bind _ = _
    rw [readOthers_flatten hothers]
    rfl

end Frame

end LineTunnel.Socks
