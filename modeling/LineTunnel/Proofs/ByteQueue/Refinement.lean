import LineTunnel.Proofs.ByteQueue.Block
import LineTunnel.Proofs.ByteQueue.Ideal

/-! A block of storage as a bounded queue. In every sequence of operations that keeps to the room
there is, no place outside of the block is touched, the answers are those of the ideal queue, and
so are the valid bytes. In every state that is reached, the block refuses just what would go beyond
its ceiling, and it is left as it was where it refuses. -/

namespace LineTunnel

open ByteQueue (Operation Answer)

namespace Block

def perform (b : Block) : Operation → Option (Answer × Block)
  | .append bs => do
    match ← b.append bs with
    | (.ok _, b') => return (.done, b')
    | (.error f, b') => return (.refused f, b')
  | .reserve n => do
    match ← b.reserve n with
    | (.ok region, b') => return (.region region, b')
    | (.error f, b') => return (.refused f, b')
  | .write n offset bs => do
    match ← b.reserve n with
    | (.ok _, b') => return (.done, ← b'.write offset bs)
    | (.error f, b') => return (.refused f, b')
  | .commit n => return (.done, b.commit n)
  | .consume n => do
    let (bs, b') ← b.consume n
    return (.head bs, b')
  | .peek n => return (.head (← b.peek n), b)
  | .discard n => return (.done, ← b.discard n)
  | .find x => return (.place (← b.find x), b)
  | .count x => return (.number (← b.count x), b)
  | .reset => return (.done, b.reset)

def run (b : Block) : List Operation → Option (List Answer × Block)
  | [] => some ([], b)
  | op :: ops => do
    let (answer, b') ← b.perform op
    let (answers, last) ← b'.run ops
    return (answer :: answers, last)

/-- What a block with these valid bytes promises. -/
structure Lawful (b : Block) (bs : Bytes) : Prop where
  valid_eq : b.valid = some bs
  length_le : b.length ≤ b.capacity
  capacity_le : b.capacity ≤ b.ceiling
  reserve_full : ∀ n,
    b.reserve n = some (.error (.link .bufferFull), b) ↔ b.ceiling < bs.length + n
  append_full : ∀ new : Bytes,
    b.append new = some (.error (.link .bufferFull), b) ↔ b.ceiling < bs.length + new.length
  reserve_room : ∀ n, bs.length + n ≤ b.ceiling → ∃ region b',
    b.reserve n = some (.ok region, b') ∧ region.length = n ∧
      b'.slice bs.length (bs.length + n) = some region ∧ b'.valid = some bs ∧
      ∀ offset (new : Bytes), offset + new.length ≤ n →
        ∃ b'', b'.write offset new = some b'' ∧ b''.valid = some bs
  append_room : ∀ new : Bytes, bs.length + new.length ≤ b.ceiling →
    ∃ b', b.append new = some (.ok (), b') ∧ b'.valid = some (bs ++ new)
  peek_eq : ∀ n, b.peek n = some (if bs.length < n then none else some (bs.take n))
  consume_none : ∀ n, b.consume n = some (none, b) ↔ bs.length < n
  consume_some : ∀ n ≤ bs.length,
    ∃ b', b.consume n = some (some (bs.take n), b') ∧ b'.valid = some (bs.drop n)
  discard_eq : ∀ n, ∃ b', b.discard n = some b' ∧ b'.valid = some (bs.drop n) ∧
    b'.length + min n bs.length = bs.length ∧ b'.capacity = b.capacity

variable {q : ByteQueue} {ceiling : Nat} {op : Operation}

section fits

variable (h : q.Fits ceiling) (hceiling : ceiling ≤ maxWord)

include h hceiling

theorem perform_block (hop : op.Proper q) :
    q.block.perform op = some ((q.perform op).1, (q.perform op).2.block) := by
  cases op with
  | append bs =>
    rw [perform, append_block h hceiling, ByteQueue.perform]
    cases q.append bs <;> rfl
  | reserve n =>
    rw [perform, reserve_block h hceiling, ByteQueue.perform]
    cases q.reserve n <;> rfl
  | write n offset bs =>
    rw [perform, reserve_block h hceiling, ByteQueue.perform]
    cases hr : q.reserve n with
    | error f => rfl
    | ok r =>
      have hroom : offset + bs.length ≤ r.spare.length :=
        Nat.le_trans hop (ByteQueue.reserve_eq_ok hr).2.2.1
      change (r.block.write offset bs).bind _ = _
      rw [write_block hroom]
      rfl
  | commit n => exact congrArg (fun b => some (Answer.done, b)) (commit_block q n)
  | consume n =>
    rw [perform, consume_block, ByteQueue.perform]
    cases q.consume n <;> rfl
  | peek n =>
    rw [perform, peek_block]
    rfl
  | discard n =>
    rw [perform, discard_block]
    rfl
  | find x =>
    rw [perform, find_block]
    rfl
  | count x =>
    rw [perform, count_block]
    rfl
  | reset => rfl

theorem lawful_block : q.block.Lawful q.bytes := by
  refine {
    valid_eq := valid_block q
    length_le := capacity_block q ▸ Nat.le_add_right ..
    capacity_le := by
      rw [capacity_block, ceiling_block, h.ceiling_eq]
      exact h.capacity_le
    reserve_full := fun n => ?reserveFull
    append_full := fun new => ?appendFull
    reserve_room := fun n hn => ?reserveRoom
    append_room := fun new hn => ?appendRoom
    peek_eq := fun n => ?peek
    consume_none := fun n => ?consumeNone
    consume_some := fun n hn => ?consumeSome
    discard_eq := fun n => ⟨(q.discard n).block, discard_block q n, valid_block _, ?discard⟩ }
  case reserveFull =>
    refine Iff.trans ?_ h.reserve_eq_error_iff
    rw [reserve_block h hceiling]
    cases q.reserve n <;> simp
  case appendFull =>
    refine Iff.trans ?_ (h.reserve_eq_error_iff (n := new.length))
    rw [append_block h hceiling, ByteQueue.append]
    cases q.reserve new.length <;> simp [Except.map]
  case reserveRoom =>
    obtain ⟨r, hr⟩ := ByteQueue.exists_reserve_eq_ok hn
    obtain ⟨hbytes, -, hspare, -⟩ := ByteQueue.reserve_eq_ok hr
    refine ⟨r.spare.take n, r.block, ?_, List.length_take_of_le hspare, ?_, ?_, ?_⟩
    · rw [reserve_block h hceiling, hr]
    · rw [← hbytes]
      exact slice_spare hspare
    · rw [valid_block, hbytes]
    · intro offset new hnew
      refine ⟨_, write_block (Nat.le_trans hnew hspare), ?_⟩
      rw [valid_block, ← hbytes]
      rfl
  case appendRoom =>
    obtain ⟨r, hr⟩ := ByteQueue.exists_append_eq_ok hn
    refine ⟨r.block, ?_, ?_⟩
    · rw [append_block h hceiling, hr]
    · rw [valid_block, ByteQueue.bytes_append hr]
  case peek =>
    rw [peek_block, ← ByteQueue.peek_ideal]
    rfl
  case consumeNone =>
    refine Iff.trans ?_ ByteQueue.consume_eq_none
    rw [consume_block]
    cases q.consume n <;> simp
  case consumeSome =>
    refine ⟨(q.discard n).block, ?_, valid_block _⟩
    rw [consume_block, ByteQueue.consume, ByteQueue.peek,
      if_pos (show n ≤ q.length from hn)]
    rfl
  case discard =>
    rw [length_block, capacity_block, capacity_block, ByteQueue.capacity_discard,
      ByteQueue.length, ByteQueue.bytes_discard, List.length_drop]
    omega

end fits

theorem run_block {ops : List Operation} (h : q.Fits ceiling) (hceiling : ceiling ≤ maxWord)
    (hops : q.Proper ops) : q.block.run ops = some ((q.run ops).1, (q.run ops).2.block) := by
  induction ops generalizing q with
  | nil => rfl
  | cons op ops ih =>
    rw [run, perform_block h hceiling hops.1]
    change ((q.perform op).2.block.run ops).bind _ = _
    rw [ih (h.perform op) hops.2]
    rfl

end Block

namespace ByteQueue

variable {ceiling : Nat} {ops : List Operation}

/-- From the empty queue, for every ceiling that is a machine word. -/
theorem refines_ideal (hceiling : ceiling ≤ maxWord) (hops : (empty ceiling).Proper ops) :
    let answers := ((empty ceiling).run ops).1
    let q := ((empty ceiling).run ops).2
    (Block.empty ceiling).run ops = some (answers, q.block) ∧
      (Ideal.empty ceiling).run ops = (answers, q.ideal) ∧
      q.block.Lawful q.ideal.bytes ∧ q.block.ceiling = ceiling := by
  have hreached := (fits_empty ceiling).run ops
  exact ⟨Block.run_block (fits_empty ceiling) hceiling hops, run_ideal (fits_empty ceiling) hops,
    Block.lawful_block hreached hceiling, hreached.ceiling_eq⟩

theorem refines_ideal_six_bytes :
    let ops := [.append [1, 2, 3, 4], .reserve 3, .discard 2, .reserve 2, .write 3 1 [9], .commit 2,
      .consume 5, .peek 2, .find 9, .count 3]
    6 ≤ maxWord ∧ (empty 6).Proper ops ∧
      (Block.empty 6).run ops = some ([.done, .refused (.link .bufferFull), .done, .region [3, 4],
        .done, .done, .head none, .head (some [3, 4]), .place (some 3), .number 2],
        ⟨[3, 4, 3, 9, 0, 0], 4, 6⟩) ∧
      (Block.mk [3, 4, 3, 9, 0, 0] 4 6).Lawful [3, 4, 3, 9] := by
  intro ops
  have hceiling : 6 ≤ maxWord := by decide
  have hops : (empty 6).Proper ops := by decide +kernel
  have hrun : (empty 6).run ops = ([.done, .refused (.link .bufferFull), .done, .region [3, 4],
      .done, .done, .head none, .head (some [3, 4]), .place (some 3), .number 2],
      ⟨[3, 4, 3, 9], [0, 0], 6⟩) := by decide +kernel
  have hrefines := refines_ideal hceiling hops
  rw [hrun] at hrefines
  exact ⟨hceiling, hops, hrefines.1, hrefines.2.2.1⟩

end ByteQueue

end LineTunnel
