import LineTunnel.ByteQueue

/-! A byte queue as it lies in storage: one block, of which the first bytes are the valid ones. It
is worked on in place, and sizes are added and doubled as machine words. What would touch a place
outside of the block has no result. -/

namespace LineTunnel

def maxWord : Nat := UInt64.size - 1

def checkedAdd (a b : Nat) : Option Nat := if a + b ≤ maxWord then some (a + b) else none

def saturatingDouble (a : Nat) : Nat := min (2 * a) maxWord

structure Block where
  storage : Bytes
  length : Nat
  ceiling : Nat
  deriving DecidableEq, Repr

namespace Block

def empty (ceiling : Nat) : Block := ⟨[], 0, ceiling⟩

def capacity (b : Block) : Nat := b.storage.length

def slice (b : Block) (start stop : Nat) : Option Bytes :=
  if start ≤ stop ∧ stop ≤ b.capacity then some ((b.storage.take stop).drop start) else none

def overwrite (b : Block) (start : Nat) (bs : Bytes) : Option Block :=
  if start + bs.length ≤ b.capacity then
    some { b with storage := b.storage.take start ++ (bs ++ b.storage.drop (start + bs.length)) }
  else none

def resize (b : Block) (size : Nat) : Block :=
  { b with storage := b.storage.take size ++ List.replicate (size - b.capacity) 0 }

def enlarged (size needed : Nat) : Nat :=
  if needed ≤ size ∨ saturatingDouble size ≤ size then size
  else enlarged (saturatingDouble size) needed
termination_by needed - size

def grow (b : Block) (needed : Nat) : Except Failure Block :=
  if needed ≤ b.capacity then .ok b
  else if b.ceiling < needed then .error (.link .bufferFull)
  else
    let size := if b.capacity = 0 then ByteQueue.seedSize else b.capacity
    .ok (b.resize (min (enlarged size needed) b.ceiling))

def reserve (b : Block) (n : Nat) : Option (Except Failure Bytes × Block) :=
  match checkedAdd b.length n with
  | none => some (.error (.link .bufferFull), b)
  | some needed =>
    match b.grow needed with
    | .error f => some (.error f, b)
    | .ok b' => (b'.slice b'.length needed).map fun region => (.ok region, b')

def write (b : Block) (offset : Nat) (bs : Bytes) : Option Block :=
  b.overwrite (b.length + offset) bs

def commit (b : Block) (n : Nat) : Block :=
  { b with length := min (b.length + n) b.capacity }

def append (b : Block) (bs : Bytes) : Option (Except Failure Unit × Block) := do
  match ← b.reserve bs.length with
  | (.error f, b') => return (.error f, b')
  | (.ok _, b') => return (.ok (), (← b'.write 0 bs).commit bs.length)

def valid (b : Block) : Option Bytes := b.slice 0 b.length

def peek (b : Block) (n : Nat) : Option (Option Bytes) :=
  if b.length < n then some none else (b.slice 0 n).map some

def discard (b : Block) (n : Nat) : Option Block := do
  let n := min n b.length
  let b' ← b.overwrite 0 (← b.slice n b.length)
  return { b' with length := b.length - n }

def consume (b : Block) (n : Nat) : Option (Option Bytes × Block) := do
  match ← b.peek n with
  | none => return (none, b)
  | some bs => return (some bs, ← b.discard n)

def find (b : Block) (x : UInt8) : Option (Option Nat) := b.valid.map (·.findIdx? (· == x))

def count (b : Block) (x : UInt8) : Option Nat := b.valid.map (·.count x)

def reset (b : Block) : Block := empty b.ceiling

end Block

end LineTunnel
