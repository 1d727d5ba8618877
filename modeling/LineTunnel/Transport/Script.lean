import LineTunnel.Transport

/-! A stream whose every answer is written down beforehand. When the script is used up, it says
that it would have to wait. -/

namespace LineTunnel

inductive ReadEvent where
  | data (bs : Bytes)
  | endOfStream
  | fail (e : StreamError)
  deriving DecidableEq, Repr

inductive WriteEvent where
  | accept (n : Nat)
  | fail (e : StreamError)
  deriving DecidableEq, Repr

structure Script where
  reads : List ReadEvent := []
  writes : List WriteEvent := []
  deriving DecidableEq, Repr

namespace Script

def read (s : Script) (n : Nat) : Except StreamError Bytes × Script :=
  match s.reads with
  | [] => (.error .blocked, s)
  | .data bs :: rest =>
    (.ok (bs.take n), { s with reads := if n < bs.length then .data (bs.drop n) :: rest else rest })
  | .endOfStream :: rest => (.ok [], { s with reads := rest })
  | .fail e :: rest => (.error e, { s with reads := rest })

def write (s : Script) (bs : Bytes) : Except StreamError Nat × Script :=
  match s.writes with
  | [] => (.error .blocked, s)
  | .accept n :: rest => (.ok (min n bs.length), { s with writes := rest })
  | .fail e :: rest => (.error e, { s with writes := rest })

def size (s : Script) : Nat := s.reads.length + s.writes.length

instance : Transport Script where
  read := read
  write := write
  pendingError s := (none, s)
  patience := size
  length_read_le s n bs h := by
    simp only [read] at h
    split at h <;> simp only [Except.ok.injEq, reduceCtorEq] at h <;> subst h
    · exact List.length_take_le ..
    · exact Nat.zero_le _
  write_le s bs n h := by
    simp only [write] at h
    split at h <;> simp only [Except.ok.injEq, reduceCtorEq] at h
    subst h
    exact Nat.min_le_right ..
  patience_read_le s n := by
    simp only [read]
    split <;> simp only [size, *, List.length_cons, Nat.le_refl]
    · split <;> simp
    · omega
    · omega
  patience_write_le s bs := by
    simp only [write]
    split <;> simp only [size, *, List.length_cons, Nat.le_refl] <;> omega
  patience_read_lt s n e h hi := by
    simp only [read] at h ⊢
    split at h <;> simp only [Except.error.injEq, reduceCtorEq] at h
    · subst h
      cases hi
    · simp only [size, *, List.length_cons]
      omega
  patience_write_lt s bs e h hi := by
    simp only [write] at h ⊢
    split at h <;> simp only [Except.error.injEq, reduceCtorEq] at h
    · subst h
      cases hi
    · simp only [size, *, List.length_cons]
      omega

end Script

end LineTunnel
