import LineTunnel.Proofs.Framing.Segments

/-! The messages in a stream, read off the whole of it: it is cut at every terminator, what follows
the last one is unfinished, and a piece that ends in the byte to drop gives up one of it. -/

namespace LineTunnel.Framing

def pieces (f : Framing) (bs : Bytes) : List Bytes := (bs.splitOn f.terminator).dropLast

def messageOf (f : Framing) (piece : Bytes) : Bytes :=
  match f.strip with
  | none => piece
  | some b => if [b] <:+ piece then piece.dropLast else piece

def messages (f : Framing) (bs : Bytes) : List Bytes := (f.pieces bs).map f.messageOf

variable {f : Framing} {bs body rest : Bytes}

theorem trim_eq_messageOf (f : Framing) (piece : Bytes) : f.trim piece = f.messageOf piece := by
  unfold trim messageOf
  cases f.strip with
  | none => exact if_neg fun h => nomatch h.1
  | some b =>
    have hends : piece.getLast? = some b ↔ [b] <:+ piece := by
      rw [List.getLast?_eq_some_iff]
      exact ⟨fun ⟨front, h⟩ => ⟨front, h.symm⟩, fun ⟨front, h⟩ => ⟨front, h.symm⟩⟩
    simp [hends]

theorem pieces_of_notMem (h : f.terminator ∉ bs) : f.pieces bs = [] := by
  unfold pieces
  rw [List.splitOn_eq_singleton h]
  rfl

theorem pieces_cons (h : f.terminator ∉ body) :
    f.pieces (body ++ f.terminator :: rest) = body :: f.pieces rest := by
  unfold pieces
  rw [List.splitOn_append_cons_self_of_not_mem h,
    List.dropLast_cons_of_ne_nil (List.splitOn_ne_nil f.terminator rest)]

theorem length_pieces (f : Framing) (bs : Bytes) :
    (f.pieces bs).length = bs.count f.terminator := by
  have hsplit : (bs.splitOn f.terminator).length = bs.count f.terminator + 1 := by
    induction bs with
    | nil => rfl
    | cons b bs ih =>
      rw [List.splitOn_cons_eq_if_modifyHead, List.count_cons]
      split
      · rw [List.length_cons, ih]
      · rw [List.length_modifyHead, ih, Nat.add_zero]
  unfold pieces
  rw [List.length_dropLast, hsplit, Nat.add_sub_cancel]

theorem pieces_stream_append {bodies : List Bytes} (h : ∀ body ∈ bodies, f.terminator ∉ body) :
    f.pieces (f.stream bodies ++ rest) = bodies ++ f.pieces rest := by
  induction bodies with
  | nil => rfl
  | cons body bodies ih =>
    have hbody := h body List.mem_cons_self
    have hbodies := fun body hmem => h body (List.mem_cons_of_mem _ hmem)
    rw [stream_cons, List.append_assoc, List.cons_append, pieces_cons hbody, ih hbodies]
    rfl

theorem pieces_append_of_notMem (h : f.terminator ∉ rest) (bs : Bytes) :
    f.pieces (bs ++ rest) = f.pieces bs := by
  by_cases hmem : f.terminator ∈ bs
  · obtain ⟨body, later, hbs, hbody⟩ := List.eq_append_cons_of_mem hmem
    rw [hbs, List.append_assoc, List.cons_append, pieces_cons hbody, pieces_cons hbody,
      pieces_append_of_notMem h later]
  · have hnone : f.terminator ∉ bs ++ rest := fun hin => (List.mem_append.1 hin).elim hmem h
    rw [pieces_of_notMem hmem, pieces_of_notMem hnone]
termination_by bs.length
decreasing_by
  rw [hbs, List.length_append, List.length_cons]
  omega

theorem messages_append_eq_iff :
    f.messages (bs ++ rest) = f.messages bs ↔ f.terminator ∉ rest := by
  constructor
  · intro h
    have hlength := congrArg List.length h
    rw [messages, messages, List.length_map, List.length_map, length_pieces, length_pieces,
      List.count_append, Nat.add_eq_left] at hlength
    exact List.count_eq_zero.1 hlength
  · intro h
    rw [messages, pieces_append_of_notMem h, messages]

end LineTunnel.Framing
