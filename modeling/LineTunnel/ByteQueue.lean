import LineTunnel.Bytes
import LineTunnel.Failure

/-! A growable queue of bytes with a ceiling on its storage. Bytes enter at the end and leave at
the front. The storage behind the valid bytes is kept, since it can be reserved, written and only
then made valid. -/

namespace LineTunnel

structure ByteQueue where
  bytes : Bytes
  spare : Bytes
  ceiling : Nat
  deriving DecidableEq, Repr

namespace ByteQueue

def seedSize : Nat := 256

def readCeiling : Nat := 32768

def writeCeiling : Nat := 65536

def empty (ceiling : Nat) : ByteQueue := ⟨[], [], ceiling⟩

def forReading : ByteQueue := empty readCeiling

def forWriting : ByteQueue := empty writeCeiling

def length (q : ByteQueue) : Nat := q.bytes.length

def isEmpty (q : ByteQueue) : Bool := q.bytes.isEmpty

def capacity (q : ByteQueue) : Nat := q.bytes.length + q.spare.length

def doubled (size needed : Nat) : Nat :=
  if needed ≤ size ∨ size = 0 then size else doubled (2 * size) needed
termination_by needed - size

def grownCapacity (q : ByteQueue) (needed : Nat) : Nat :=
  min (doubled (if q.capacity = 0 then seedSize else q.capacity) needed) q.ceiling

/-- Makes room for `n` bytes behind the valid ones: the storage grows by doubling, and new storage
holds zeros. A queue that would need more than its ceiling is full. -/
def reserve (q : ByteQueue) (n : Nat) : Except Failure ByteQueue :=
  let needed := q.length + n
  if needed ≤ q.capacity then .ok q
  else if q.ceiling < needed then .error (.link .bufferFull)
  else .ok { q with
    spare := q.spare ++ List.replicate (q.grownCapacity needed - q.capacity) 0 }

def stage (q : ByteQueue) (bs : Bytes) : ByteQueue :=
  { q with spare := bs.take q.spare.length ++ q.spare.drop bs.length }

def commit (q : ByteQueue) (n : Nat) : ByteQueue :=
  { q with bytes := q.bytes ++ q.spare.take n, spare := q.spare.drop n }

def push (q : ByteQueue) (bs : Bytes) : ByteQueue := (q.stage bs).commit bs.length

def append (q : ByteQueue) (bs : Bytes) : Except Failure ByteQueue :=
  (q.reserve bs.length).map (·.push bs)

def discard (q : ByteQueue) (n : Nat) : ByteQueue :=
  { q with
    bytes := q.bytes.drop n
    spare := q.bytes.drop (q.length - n) ++ q.spare }

def peek (q : ByteQueue) (n : Nat) : Option Bytes :=
  if n ≤ q.length then some (q.bytes.take n) else none

def consume (q : ByteQueue) (n : Nat) : Option (Bytes × ByteQueue) :=
  (q.peek n).map fun bs => (bs, q.discard n)

def find (q : ByteQueue) (b : UInt8) : Option Nat := q.bytes.findIdx? (· == b)

def count (q : ByteQueue) (b : UInt8) : Nat := q.bytes.count b

def reset (q : ByteQueue) : ByteQueue := empty q.ceiling

def room (q : ByteQueue) : Nat := max q.ceiling q.capacity - q.length

end ByteQueue

end LineTunnel
