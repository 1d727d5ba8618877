import LineTunnel.Transport

/-! A stream together with a record of what went over it: the bytes taken from it, the bytes it
accepted, how much room each read and how many bytes each write offered, and how many writes
failed. -/

namespace LineTunnel

def isFailedWrite : Except StreamError Nat → Bool
  | .ok n => n == 0
  | .error e => !e.isBlocked && !e.isInterrupted

structure Recorded (σ : Type) where
  stream : σ
  taken : Bytes := []
  accepted : Bytes := []
  offers : List Nat := []
  failedWrites : Nat := 0
  deriving DecidableEq, Repr

namespace Recorded

variable {σ : Type} [Transport σ]

def read (s : Recorded σ) (n : Nat) : Except StreamError Bytes × Recorded σ :=
  let (result, stream) := Transport.read s.stream n
  let taken := match result with
    | .ok bs => bs
    | .error _ => []
  (result, { s with stream, taken := s.taken ++ taken, offers := s.offers ++ [n] })

def write (s : Recorded σ) (bs : Bytes) : Except StreamError Nat × Recorded σ :=
  let (result, stream) := Transport.write s.stream bs
  let accepted := match result with
    | .ok n => bs.take n
    | .error _ => []
  (result, { s with
    stream
    accepted := s.accepted ++ accepted
    offers := s.offers ++ [bs.length]
    failedWrites := s.failedWrites + if isFailedWrite result then 1 else 0 })

def clear (s : Recorded σ) : Recorded σ := { stream := s.stream }

instance : Transport (Recorded σ) where
  read := read
  write := write
  pendingError s :=
    let (error, stream) := Transport.pendingError s.stream
    (error, { s with stream })
  patience s := Transport.patience s.stream
  length_read_le s := Transport.length_read_le s.stream
  write_le s := Transport.write_le s.stream
  patience_read_le s := Transport.patience_read_le s.stream
  patience_write_le s := Transport.patience_write_le s.stream
  patience_read_lt s := Transport.patience_read_lt s.stream
  patience_write_lt s := Transport.patience_write_lt s.stream

end Recorded

end LineTunnel
