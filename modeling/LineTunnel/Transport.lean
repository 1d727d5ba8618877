import LineTunnel.ByteQueue.Lemmas

/-! Byte streams that never wait. A read or a write moves some bytes, or says that it would have
to wait, that it was interrupted, or that the stream failed. Filling a queue from a stream and
draining one into it go on until the stream would have to wait. -/

namespace LineTunnel

inductive StreamError where
  | errno (code : Int)
  | blocked
  | interrupted
  | cutShort
  | other
  deriving DecidableEq, Repr

namespace StreamError

def isBlocked : StreamError → Bool
  | errno code => code == 11
  | blocked => true
  | _ => false

def isInterrupted : StreamError → Bool
  | errno code => code == 4
  | interrupted => true
  | _ => false

def toFailure : StreamError → Failure
  | errno code => .os code
  | cutShort => .link .closedByPeer
  | _ => .link .socketException

end StreamError

/-- A stream that never waits.

A read of at most `n` bytes that returns none has met the end of the stream. The patience of a
stream bounds the interruptions still to come: it never grows, and an interruption uses some up. -/
class Transport (σ : Type) where
  read : σ → Nat → Except StreamError Bytes × σ
  write : σ → Bytes → Except StreamError Nat × σ
  pendingError : σ → Option StreamError × σ
  patience : σ → Nat
  length_read_le (s : σ) (n : Nat) (bs : Bytes) : (read s n).1 = .ok bs → bs.length ≤ n
  write_le (s : σ) (bs : Bytes) (n : Nat) : (write s bs).1 = .ok n → n ≤ bs.length
  patience_read_le (s : σ) (n : Nat) : patience (read s n).2 ≤ patience s
  patience_write_le (s : σ) (bs : Bytes) : patience (write s bs).2 ≤ patience s
  patience_read_lt (s : σ) (n : Nat) (e : StreamError) :
    (read s n).1 = .error e → e.isInterrupted = true → patience (read s n).2 < patience s
  patience_write_lt (s : σ) (bs : Bytes) (e : StreamError) :
    (write s bs).1 = .error e → e.isInterrupted = true → patience (write s bs).2 < patience s

namespace Transport

variable {σ : Type} [Transport σ]

/-- Reads into a queue until the stream would have to wait. The end of the stream and a queue
without room are failures; what was read before stays in the queue. -/
def fill (s : σ) (q : ByteQueue) : Except Failure Unit × σ × ByteQueue :=
  match _hq : q.reserve 1 with
  | .error f => (.error f, s, q)
  | .ok q' =>
    match _hr : read s q'.spare.length with
    | (.ok bs, s') =>
      if bs = [] then (.error (.link .closedByPeer), s', q') else fill s' (q'.push bs)
    | (.error e, s') =>
      if e.isBlocked then (.ok (), s', q')
      else if e.isInterrupted then fill s' q'
      else (.error e.toFailure, s', q')
termination_by patience s + q.room
decreasing_by
  · next hbs =>
    obtain ⟨-, -, hspare, hroom⟩ := ByteQueue.reserve_eq_ok _hq
    have hlt := ByteQueue.room_push_lt hbs hspare
    have hle := patience_read_le s q'.spare.length
    rw [_hr] at hle
    exact Nat.add_lt_add_of_le_of_lt hle (Nat.lt_of_lt_of_le hlt hroom)
  · next hi =>
    obtain ⟨-, -, -, hroom⟩ := ByteQueue.reserve_eq_ok _hq
    have hlt := patience_read_lt s q'.spare.length e (by rw [_hr]) hi
    rw [_hr] at hlt
    exact Nat.add_lt_add_of_lt_of_le hlt hroom

def send (s : σ) (bs : Bytes) : Except Failure Unit × σ × Nat :=
  if bs = [] then (.ok (), s, 0)
  else
    match _hw : write s bs with
    | (.ok 0, s') => (.error (.link .closedByPeer), s', 0)
    | (.ok (n + 1), s') =>
      let (result, s'', m) := send s' (bs.drop (n + 1))
      (result, s'', n + 1 + m)
    | (.error e, s') =>
      if e.isBlocked then (.ok (), s', 0)
      else if e.isInterrupted then send s' bs
      else (.error e.toFailure, s', 0)
termination_by patience s + bs.length
decreasing_by
  · next hbs =>
    have hle := patience_write_le s bs
    rw [_hw] at hle
    have := List.length_pos_iff.2 hbs
    rw [List.length_drop]
    exact Nat.add_lt_add_of_le_of_lt hle (by omega)
  · next hi =>
    have hlt := patience_write_lt s bs e (by rw [_hw]) hi
    rw [_hw] at hlt
    exact Nat.add_lt_add_right hlt _

def drain (s : σ) (q : ByteQueue) : Except Failure Unit × σ × ByteQueue :=
  let (result, s', n) := send s q.bytes
  (result, s', q.discard n)

end Transport

end LineTunnel
