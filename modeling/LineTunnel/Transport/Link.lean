import LineTunnel.Transport.Pollable

/-! One end of a link held in memory, with what the peer at the other end can do to it. Bytes go
both ways without loss and in order; the link takes every byte that is written to it. -/

namespace LineTunnel

structure Link where
  inbox : Bytes := []
  outbox : Bytes := []
  finished : Bool := false
  broken : Bool := false
  error : Option Int := none
  peer : Bool := true
  deriving DecidableEq, Repr

namespace Link

def read (l : Link) (n : Nat) : Except StreamError Bytes × Link :=
  if !l.inbox.isEmpty then (.ok (l.inbox.take n), { l with inbox := l.inbox.drop n })
  else
    match l.error with
    | some code => (.error (.errno code), { l with error := none })
    | none => (if l.finished then .ok [] else .error .blocked, l)

def write (l : Link) (bs : Bytes) : Except StreamError Nat × Link :=
  if l.broken then (.error (.errno 32), l)
  else (.ok bs.length, { l with outbox := l.outbox ++ bs })

def poll (l : Link) (asked : PollEvents) : PollEvents :=
  (if !l.inbox.isEmpty || l.finished then asked &&& PollEvents.input else 0) |||
    (asked &&& PollEvents.output) |||
    (if l.error.isSome then PollEvents.error else 0)

instance : Pollable Link where
  read := read
  write := write
  poll := poll
  pendingError l := (l.error.map .errno, { l with error := none })
  patience l := if l.error.isSome then 1 else 0
  length_read_le l n bs h := by
    simp only [read] at h
    split at h
    · simp only [Except.ok.injEq] at h
      subst h
      exact List.length_take_le ..
    · split at h
      · cases h
      · simp only at h
        split at h <;> cases h
        exact Nat.zero_le _
  write_le l bs n h := by
    simp only [write] at h
    split at h <;> simp_all
  patience_read_le l n := by
    simp only [read]
    split
    · exact Nat.le_refl _
    · split <;> simp_all
  patience_write_le l bs := by
    simp only [write]
    split <;> exact Nat.le_refl _
  patience_read_lt l n e h hi := by
    obtain ⟨inbox, outbox, finished, broken, error, peer⟩ := l
    simp only [read] at h ⊢
    split at h
    · cases h
    · next hin =>
      cases error with
      | some code => simp [hin]
      | none =>
        simp only at h
        split at h <;> cases h
        cases hi
  patience_write_lt l bs e h hi := by
    simp only [write] at h
    split at h <;> cases h
    cases hi

def peerSend (l : Link) (bs : Bytes) : Option Link :=
  if l.peer && !l.finished then some { l with inbox := l.inbox ++ bs } else none

def peerFinish (l : Link) : Option Link :=
  if l.peer then some { l with finished := true } else none

def peerRefuse (l : Link) : Option Link :=
  if l.peer then some { l with broken := true } else none

def peerClose (l : Link) : Link := { l with finished := true, broken := true, peer := false }

def peerReset (l : Link) : Option Link :=
  if l.peer && !l.broken then some { l.peerClose with error := some 104 } else none

def collect (l : Link) : Bytes × Link := (l.outbox, { l with outbox := [] })

end Link

end LineTunnel
