import LineTunnel.ByteQueue.Block
import LineTunnel.ByteQueue.Lemmas

/-! A block does what the queue of its bytes does: each operation on the block has a result, and it
is the block of the queue that the same operation gives. So no place outside of the block is
touched, and no sum or double is too large for a machine word as long as the ceiling is not. -/

namespace LineTunnel

def ByteQueue.block (q : ByteQueue) : Block := ⟨q.bytes ++ q.spare, q.length, q.ceiling⟩

namespace Block

variable {b b' : Block} {q r : ByteQueue} {n size needed : Nat} {bs : Bytes}

theorem enlarged_eq (hpos : 0 < size) (hsize : size ≤ maxWord) (hneeded : needed ≤ maxWord) :
    enlarged size needed = min (ByteQueue.doubled size needed) maxWord := by
  fun_induction enlarged size needed with
  | case1 size hlast =>
    have henough : needed ≤ size := by
      unfold saturatingDouble at hlast
      omega
    rw [ByteQueue.doubled, if_pos (.inl henough), Nat.min_eq_left hsize]
  | case2 size hmore ih =>
    have hless : ¬(needed ≤ size ∨ size = 0) := by omega
    rw [ByteQueue.doubled, if_neg hless]
    by_cases hfits : 2 * size ≤ maxWord
    · have hdouble : saturatingDouble size = 2 * size := Nat.min_eq_left hfits
      rw [hdouble] at ih ⊢
      exact ih (by omega) hfits
    · have hdouble : saturatingDouble size = maxWord := Nat.min_eq_right (by omega)
      rw [ByteQueue.doubled, if_pos (.inl (by omega)), hdouble, enlarged,
        if_pos (.inl hneeded)]
      omega

@[simp] theorem storage_block (q : ByteQueue) : q.block.storage = q.bytes ++ q.spare := rfl

@[simp] theorem length_block (q : ByteQueue) : q.block.length = q.length := rfl

@[simp] theorem ceiling_block (q : ByteQueue) : q.block.ceiling = q.ceiling := rfl

@[simp] theorem capacity_block (q : ByteQueue) : q.block.capacity = q.capacity :=
  List.length_append

theorem exists_block_eq (h : b.length ≤ b.capacity) :
    ∃ q : ByteQueue, q.block = b ∧ q.ceiling = b.ceiling ∧ q.capacity = b.capacity := by
  refine ⟨⟨b.storage.take b.length, b.storage.drop b.length, b.ceiling⟩, ?_, rfl, ?_⟩
  · rw [ByteQueue.block, List.take_append_drop, ByteQueue.length, List.length_take_of_le h]
  · rw [ByteQueue.capacity, ← List.length_append, List.take_append_drop]
    rfl

theorem overwrite_eq_some {start : Nat} (h : b.overwrite start bs = some b') :
    b'.capacity = b.capacity ∧ b'.length = b.length ∧ b'.ceiling = b.ceiling := by
  unfold overwrite at h
  split at h
  · next hfits =>
    cases h
    refine ⟨?_, rfl, rfl⟩
    unfold capacity at hfits ⊢
    simp only [List.length_append, List.length_take, List.length_drop]
    omega
  · cases h

theorem slice_block {start stop : Nat} (hstart : start ≤ stop) (hstop : stop ≤ q.length) :
    q.block.slice start stop = some ((q.bytes.take stop).drop start) := by
  have hcapacity : stop ≤ q.block.capacity :=
    Nat.le_trans hstop (capacity_block q ▸ Nat.le_add_right ..)
  rw [slice, if_pos ⟨hstart, hcapacity⟩]
  exact congrArg (fun bs => some (bs.drop start)) (List.take_append_of_le_length hstop)

theorem valid_block (q : ByteQueue) : q.block.valid = some q.bytes := by
  rw [valid, length_block, slice_block (Nat.zero_le _) (Nat.le_refl _)]
  exact congrArg some List.take_length

theorem slice_spare (hn : n ≤ q.spare.length) :
    q.block.slice q.length (q.length + n) = some (q.spare.take n) := by
  have hcapacity : q.length + n ≤ q.block.capacity :=
    capacity_block q ▸ Nat.add_le_add_left hn _
  rw [slice, if_pos ⟨Nat.le_add_right .., hcapacity⟩]
  have hregion : ((q.bytes ++ q.spare).take (q.bytes.length + n)).drop q.bytes.length =
      q.spare.take n := by
    rw [List.take_length_add_append, List.drop_left]
  exact congrArg some hregion

theorem resize_block (hn : q.capacity ≤ n) :
    q.block.resize n =
      ByteQueue.block { q with spare := q.spare ++ List.replicate (n - q.capacity) 0 } := by
  have hstorage : (q.bytes ++ q.spare).take n = q.bytes ++ q.spare :=
    List.take_of_length_le (Nat.le_trans (Nat.le_of_eq List.length_append) hn)
  rw [resize, storage_block, capacity_block, hstorage, List.append_assoc]
  rfl

theorem commit_block (q : ByteQueue) (n : Nat) : q.block.commit n = (q.commit n).block := by
  have hlength : min (q.length + n) q.capacity = q.length + min n q.spare.length := by
    unfold ByteQueue.length ByteQueue.capacity
    omega
  rw [commit, length_block, capacity_block, hlength]
  simp [ByteQueue.block, ByteQueue.commit, ByteQueue.length]

theorem write_block {offset : Nat} (hn : offset + bs.length ≤ q.spare.length) :
    q.block.write offset bs = some (q.stage (q.spare.take offset ++ bs)).block := by
  have hcapacity : q.length + offset + bs.length ≤ q.block.capacity := by
    rw [capacity_block, Nat.add_assoc]
    exact Nat.add_le_add_left hn _
  have hfront : (q.bytes ++ q.spare).take (q.length + offset) = q.bytes ++ q.spare.take offset :=
    List.take_length_add_append ..
  have hback : (q.bytes ++ q.spare).drop (q.length + offset + bs.length) =
      q.spare.drop (offset + bs.length) := by
    rw [Nat.add_assoc]
    exact List.drop_length_add_append ..
  have hstaged : (q.spare.take offset ++ bs).length = offset + bs.length := by
    rw [List.length_append, List.length_take_of_le (Nat.le_of_add_right_le hn)]
  have hall : (q.spare.take offset ++ bs).take q.spare.length = q.spare.take offset ++ bs :=
    List.take_of_length_le (Nat.le_trans (Nat.le_of_eq hstaged) hn)
  rw [write, length_block, overwrite, if_pos hcapacity, storage_block, hfront, hback,
    ByteQueue.stage, hstaged, hall]
  simp only [ByteQueue.block, List.append_assoc]
  rfl

theorem discard_block (q : ByteQueue) (n : Nat) :
    q.block.discard n = some (q.discard n).block := by
  have hrest : (q.bytes.take q.length).drop (min n q.length) = q.bytes.drop n := by
    rw [ByteQueue.length, List.take_length, ← List.drop_eq_drop_min]
  have hlength : 0 + (q.bytes.drop n).length = q.length - n := by
    rw [Nat.zero_add, List.length_drop, ByteQueue.length]
  have hcapacity : q.length - n ≤ q.block.capacity :=
    Nat.le_trans (Nat.sub_le ..) (capacity_block q ▸ Nat.le_add_right ..)
  have hback : (q.bytes ++ q.spare).drop (q.length - n) = q.bytes.drop (q.length - n) ++ q.spare :=
    List.drop_append_of_le_length (Nat.sub_le ..)
  have hleft : q.length - min n q.length = (q.discard n).length := by
    rw [ByteQueue.length, ByteQueue.length, ByteQueue.bytes_discard, List.length_drop]
    omega
  rw [discard, length_block, slice_block (Nat.min_le_right ..) (Nat.le_refl _), hrest]
  change (q.block.overwrite 0 (q.bytes.drop n)).bind _ = _
  rw [overwrite, hlength, if_pos hcapacity, hleft]
  exact congrArg (fun bs => some (Block.mk (q.bytes.drop n ++ bs) _ _)) hback

section ceiling

variable {ceiling : Nat} (h : q.Fits ceiling) (hceiling : ceiling ≤ maxWord)

include h hceiling

theorem grown_eq (hneeded : needed ≤ ceiling) :
    min (enlarged (if q.capacity = 0 then ByteQueue.seedSize else q.capacity) needed) q.ceiling =
      q.grownCapacity needed := by
  have hcapacity := h.capacity_le
  rw [enlarged_eq ?pos ?word (Nat.le_trans hneeded hceiling), ByteQueue.grownCapacity, h.ceiling_eq,
    Nat.min_assoc, Nat.min_eq_right hceiling]
  case pos =>
    split
    · exact ByteQueue.seedSize_pos
    · omega
  case word =>
    split
    · decide
    · omega

theorem grow_block (n : Nat) :
    q.block.grow (q.length + n) = (q.reserve n).map ByteQueue.block := by
  rw [grow, ByteQueue.reserve, capacity_block, ceiling_block]
  by_cases hfits : q.length + n ≤ q.capacity
  · rw [if_pos hfits, if_pos hfits]
    rfl
  by_cases hover : q.ceiling < q.length + n
  · rw [if_neg hfits, if_neg hfits, if_pos hover, if_pos hover]
    rfl
  have hroom := Nat.le_of_not_lt hover
  have hmore := ByteQueue.le_grownCapacity hroom
  rw [if_neg hfits, if_neg hfits, if_neg hover, if_neg hover]
  dsimp only
  rw [grown_eq h hceiling (h.ceiling_eq ▸ hroom), resize_block (by omega)]
  rfl

theorem reserve_block (n : Nat) :
    q.block.reserve n = some (match q.reserve n with
      | .ok r => (.ok (r.spare.take n), r.block)
      | .error f => (.error f, q.block)) := by
  rw [reserve, checkedAdd, length_block]
  by_cases hword : q.length + n ≤ maxWord
  · rw [if_pos hword]
    dsimp only
    rw [grow_block h hceiling]
    cases hr : q.reserve n with
    | error f => rfl
    | ok r =>
      obtain ⟨hbytes, -, hspare, -⟩ := ByteQueue.reserve_eq_ok hr
      have hlength : q.length = r.length := congrArg List.length hbytes.symm
      change (r.block.slice r.length (q.length + n)).map _ = _
      rw [hlength, slice_spare hspare]
      rfl
  · rw [if_neg hword, h.reserve_eq_error (by omega)]

theorem append_block (bs : Bytes) :
    q.block.append bs = some (match q.append bs with
      | .ok r => (.ok (), r.block)
      | .error f => (.error f, q.block)) := by
  rw [append, reserve_block h hceiling, ByteQueue.append]
  cases hr : q.reserve bs.length with
  | error f => rfl
  | ok r =>
    obtain ⟨-, -, hspare, -⟩ := ByteQueue.reserve_eq_ok hr
    change (r.block.write 0 bs).bind _ = _
    rw [write_block (by omega)]
    change some (Except.ok (), Block.commit _ _) = _
    rw [commit_block]
    rfl

end ceiling

theorem peek_block (q : ByteQueue) (n : Nat) : q.block.peek n = some (q.peek n) := by
  rw [peek, ByteQueue.peek, length_block]
  by_cases hn : n ≤ q.length
  · rw [if_neg (Nat.not_lt.2 hn), if_pos hn, slice_block (Nat.zero_le n) hn]
    rfl
  · rw [if_pos (Nat.lt_of_not_le hn), if_neg hn]

theorem consume_block (q : ByteQueue) (n : Nat) :
    q.block.consume n = some (match q.consume n with
      | some (bs, r) => (some bs, r.block)
      | none => (none, q.block)) := by
  rw [consume, peek_block, ByteQueue.consume]
  cases hp : q.peek n with
  | none => rfl
  | some bs =>
    change (q.block.discard n).bind _ = _
    rw [discard_block]
    rfl

theorem find_block (q : ByteQueue) (x : UInt8) : q.block.find x = some (q.find x) := by
  rw [find, valid_block]
  rfl

theorem count_block (q : ByteQueue) (x : UInt8) : q.block.count x = some (q.count x) := by
  rw [count, valid_block]
  rfl

end Block

end LineTunnel
