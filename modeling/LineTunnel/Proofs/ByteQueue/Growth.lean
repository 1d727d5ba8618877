import LineTunnel.Proofs.ByteQueue.Refinement
import Mathlib.Algebra.Group.Nat.Defs
import Mathlib.Order.Bounds.Defs

/-! How the storage of a queue grows. It begins with the seed and is doubled as often as it takes,
and the ceiling cuts it off. It never shrinks until the queue is reset. In machine words the
doubling ends as well, after as many rounds as it would without a largest word. -/

namespace LineTunnel

open ByteQueue (Operation Answer)

namespace ByteQueue

/-- Storage of some size that a queue can have: none, or a doubled seed, cut off at the ceiling. -/
def StorageSize (ceiling size : Nat) : Prop :=
  size = 0 ∨ ∃ k, size = min (seedSize * 2 ^ k) ceiling

/-- Storage that was enough is as it was. Other storage is the smallest doubled seed that is enough,
doubled no less often than before, and cut off at the ceiling. -/
structure Growth (ceiling old needed new : Nat) : Prop where
  fit : needed ≤ old → new = old
  grown : old < needed → ∃ k₀ k, (old = 0 ∧ k₀ = 0 ∨ old = seedSize * 2 ^ k₀) ∧
    IsLeast {k | k₀ ≤ k ∧ needed ≤ seedSize * 2 ^ k} k ∧ new = min (seedSize * 2 ^ k) ceiling
  covers : needed ≤ new

variable {q r : ByteQueue} {ceiling size needed n : Nat} {op : Operation}

theorem mul_two_pow_succ (size k : Nat) : size * 2 ^ (k + 1) = 2 * size * 2 ^ k := by
  rw [Nat.pow_succ, Nat.mul_comm 2 size, Nat.mul_assoc, Nat.mul_comm 2]

theorem isLeast_double {k : Nat} (hless : size < needed)
    (hk : IsLeast {k | needed ≤ 2 * size * 2 ^ k} k) :
    IsLeast {k | needed ≤ size * 2 ^ k} (k + 1) := by
  refine ⟨?_, fun j hj => ?_⟩
  · change needed ≤ size * 2 ^ (k + 1)
    rw [mul_two_pow_succ]
    exact hk.1
  · have henough : needed ≤ size * 2 ^ j := hj
    cases j with
    | zero => omega
    | succ j =>
      rw [mul_two_pow_succ] at henough
      exact Nat.succ_le_succ (hk.2 henough)

theorem exists_doubled_eq (hpos : 0 < size) (needed : Nat) :
    ∃ k, IsLeast {k | needed ≤ size * 2 ^ k} k ∧ doubled size needed = size * 2 ^ k := by
  fun_induction doubled size needed with
  | case1 size hlast =>
    have henough : needed ≤ size * 2 ^ 0 := by omega
    exact ⟨0, ⟨henough, fun _ _ => Nat.zero_le _⟩, (Nat.mul_one size).symm⟩
  | case2 size hmore ih =>
    obtain ⟨k, hk, hdoubled⟩ := ih (by omega)
    exact ⟨k + 1, isLeast_double (by omega) hk, hdoubled.trans (mul_two_pow_succ size k).symm⟩

theorem isLeast_from {k₀ k : Nat} (hk : IsLeast {k | needed ≤ size * 2 ^ k₀ * 2 ^ k} k) :
    IsLeast {k | k₀ ≤ k ∧ needed ≤ size * 2 ^ k} (k₀ + k) := by
  have hpow (j : Nat) : size * 2 ^ (k₀ + j) = size * 2 ^ k₀ * 2 ^ j := by
    rw [Nat.pow_add, Nat.mul_assoc]
  refine ⟨⟨Nat.le_add_right .., ?_⟩, ?_⟩
  · rw [hpow]
    exact hk.1
  · rintro j ⟨hfrom, henough⟩
    obtain ⟨d, rfl⟩ := Nat.exists_eq_add_of_le hfrom
    rw [hpow] at henough
    exact Nat.add_le_add_left (hk.2 henough) k₀

theorem StorageSize.le (h : StorageSize ceiling size) : size ≤ ceiling := by
  rcases h with rfl | ⟨k, rfl⟩
  · exact Nat.zero_le _
  · exact Nat.min_le_right ..

theorem StorageSize.exists_eq_of_lt (h : StorageSize ceiling size) (hlt : size < ceiling) :
    ∃ k₀, (size = 0 ∧ k₀ = 0 ∨ size = seedSize * 2 ^ k₀) ∧
      (if size = 0 then seedSize else size) = seedSize * 2 ^ k₀ := by
  rcases h with rfl | ⟨k, rfl⟩
  · exact ⟨0, .inl ⟨rfl, rfl⟩, rfl⟩
  · have hwhole : min (seedSize * 2 ^ k) ceiling = seedSize * 2 ^ k := by omega
    have hpos : seedSize * 2 ^ k ≠ 0 :=
      Nat.ne_of_gt (Nat.mul_pos seedSize_pos (Nat.two_pow_pos k))
    rw [hwhole]
    exact ⟨k, .inr rfl, if_neg hpos⟩

theorem Growth.storageSize {old new : Nat} (h : Growth ceiling old needed new)
    (hold : StorageSize ceiling old) : StorageSize ceiling new := by
  by_cases hfit : needed ≤ old
  · rwa [h.fit hfit]
  · obtain ⟨-, k, -, -, hnew⟩ := h.grown (Nat.lt_of_not_le hfit)
    exact .inr ⟨k, hnew⟩

theorem Growth.le {old new : Nat} (h : Growth ceiling old needed new) : old ≤ new := by
  by_cases hfit : needed ≤ old
  · exact Nat.le_of_eq (h.fit hfit).symm
  · exact Nat.le_trans (Nat.le_of_not_le hfit) h.covers

theorem capacity_reserve (hr : q.reserve n = .ok r) :
    q.length + n ≤ q.capacity ∧ r = q ∨
      q.capacity < q.length + n ∧ q.length + n ≤ q.ceiling ∧
        r.capacity = q.grownCapacity (q.length + n) := by
  unfold reserve at hr
  dsimp only at hr
  split at hr
  · next hfit =>
    cases hr
    exact .inl ⟨hfit, rfl⟩
  · next hfit =>
    split at hr
    · cases hr
    · next hceiling =>
      cases hr
      have hcovers := le_grownCapacity (q := q) (Nat.le_of_not_lt hceiling)
      refine .inr ⟨Nat.lt_of_not_le hfit, Nat.le_of_not_lt hceiling, ?_⟩
      simp only [capacity, List.length_append, List.length_replicate] at hfit hcovers ⊢
      omega

theorem growth_reserve (h : StorageSize q.ceiling q.capacity) (hr : q.reserve n = .ok r) :
    Growth q.ceiling q.capacity (q.length + n) r.capacity := by
  rcases capacity_reserve hr with ⟨hfit, rfl⟩ | ⟨hless, hceiling, hcapacity⟩
  · exact ⟨fun _ => rfl, fun hless => absurd hfit (Nat.not_le.2 hless), hfit⟩
  · -- the old storage was not enough, so it was below the ceiling and not cut off
    obtain ⟨k₀, hold, hsize⟩ := h.exists_eq_of_lt (Nat.lt_of_lt_of_le hless hceiling)
    have hpos : 0 < seedSize * 2 ^ k₀ := Nat.mul_pos seedSize_pos (Nat.two_pow_pos k₀)
    obtain ⟨k, hk, hdoubled⟩ := exists_doubled_eq hpos (q.length + n)
    have hgrown : q.grownCapacity (q.length + n) = min (seedSize * 2 ^ (k₀ + k)) q.ceiling := by
      rw [grownCapacity, hsize, hdoubled, Nat.pow_add, Nat.mul_assoc]
    rw [hcapacity]
    exact ⟨fun hfit => absurd hless (Nat.not_lt.2 hfit),
      fun _ => ⟨k₀, k₀ + k, hold, isLeast_from hk, hgrown⟩, le_grownCapacity hceiling⟩

theorem capacity_perform (q : ByteQueue) (op : Operation) :
    op = .reset ∧ (q.perform op).2.capacity = 0 ∨ (q.perform op).2.capacity = q.capacity ∨
      ∃ n r, q.reserve n = .ok r ∧ (q.perform op).2.capacity = r.capacity := by
  unfold perform
  cases op with
  | append bs =>
    dsimp only
    rw [append]
    cases hr : q.reserve bs.length with
    | error f => exact .inr (.inl rfl)
    | ok r => exact .inr (.inr ⟨_, r, hr, capacity_push r bs⟩)
  | reserve n =>
    dsimp only
    cases hr : q.reserve n with
    | error f => exact .inr (.inl rfl)
    | ok r => exact .inr (.inr ⟨n, r, hr, rfl⟩)
  | write n offset bs =>
    dsimp only
    cases hr : q.reserve n with
    | error f => exact .inr (.inl rfl)
    | ok r => exact .inr (.inr ⟨n, r, hr, capacity_stage r _⟩)
  | commit n => exact .inr (.inl (capacity_commit q n))
  | consume n =>
    dsimp only
    split
    · next hconsume =>
      rw [(consume_eq_some hconsume).2.2]
      exact .inr (.inl (capacity_discard q n))
    · exact .inr (.inl rfl)
  | peek n => exact .inr (.inl rfl)
  | discard n => exact .inr (.inl (capacity_discard q n))
  | find b => exact .inr (.inl rfl)
  | count b => exact .inr (.inl rfl)
  | reset => exact .inl ⟨rfl, rfl⟩

theorem StorageSize.perform (h : StorageSize q.ceiling q.capacity) (op : Operation) :
    StorageSize q.ceiling (q.perform op).2.capacity := by
  rcases q.capacity_perform op with ⟨-, hnone⟩ | hsame | ⟨n, r, hr, hgrown⟩
  · exact .inl hnone
  · rwa [hsame]
  · rw [hgrown]
    exact (growth_reserve h hr).storageSize h

theorem StorageSize.le_perform (h : StorageSize q.ceiling q.capacity) (hop : op ≠ .reset) :
    q.capacity ≤ (q.perform op).2.capacity := by
  rcases q.capacity_perform op with ⟨hreset, -⟩ | hsame | ⟨n, r, hr, hgrown⟩
  · exact absurd hreset hop
  · exact Nat.le_of_eq hsame.symm
  · rw [hgrown]
    exact (growth_reserve h hr).le

theorem storageSize_run (h : q.Fits ceiling) (hq : StorageSize ceiling q.capacity)
    (ops : List Operation) : StorageSize ceiling (q.run ops).2.capacity := by
  induction ops generalizing q with
  | nil => exact hq
  | cons op ops ih =>
    have hperform := (h.ceiling_eq ▸ hq : StorageSize q.ceiling q.capacity).perform op
    rw [h.ceiling_eq] at hperform
    exact ih (h.perform op) hperform

end ByteQueue

namespace Block

def enlargedWithin (rounds size needed : Nat) : Option Nat :=
  if needed ≤ size then some size
  else match rounds with
    | 0 => none
    | rounds + 1 => enlargedWithin rounds (saturatingDouble size) needed

structure Grows (b : Block) : Prop where
  length_le : b.length ≤ b.capacity
  size : ByteQueue.StorageSize b.ceiling b.capacity
  keeps : ∀ op answer b', op ≠ .reset → b.perform op = some (answer, b') → b.capacity ≤ b'.capacity
  room : ∀ n, b.length + n ≤ b.ceiling → ∃ region b',
    checkedAdd b.length n = some (b.length + n) ∧ b.reserve n = some (.ok region, b') ∧
      ByteQueue.Growth b.ceiling b.capacity (b.length + n) b'.capacity
  full : ∀ n, b.ceiling < b.length + n → b.reserve n = some (.error (.link .bufferFull), b)

variable {b b' : Block} {q : ByteQueue} {ceiling size needed : Nat} {op : Operation}
  {answer : Answer}

theorem enlargedWithin_eq {rounds : Nat} (hpos : 0 < size) (hsize : size ≤ maxWord)
    (hneeded : needed ≤ maxWord) (h : needed ≤ size * 2 ^ rounds) :
    enlargedWithin rounds size needed = some (enlarged size needed) := by
  induction rounds generalizing size with
  | zero =>
    rw [Nat.pow_zero, Nat.mul_one] at h
    rw [enlargedWithin, enlarged, if_pos h, if_pos (.inl h)]
  | succ rounds ih =>
    by_cases henough : needed ≤ size
    · rw [enlargedWithin, enlarged, if_pos henough, if_pos (.inl henough)]
    · have hmore : size < saturatingDouble size := by
        unfold saturatingDouble
        omega
      have hword : saturatingDouble size ≤ maxWord := Nat.min_le_right ..
      -- where the double is no word any more, the largest word takes its place and is enough
      have hnext : needed ≤ saturatingDouble size * 2 ^ rounds := by
        by_cases hfits : 2 * size ≤ maxWord
        · rw [saturatingDouble, Nat.min_eq_left hfits, ← ByteQueue.mul_two_pow_succ]
          exact h
        · rw [saturatingDouble, Nat.min_eq_right (by omega)]
          exact Nat.le_trans hneeded (Nat.le_mul_of_pos_right _ (Nat.two_pow_pos rounds))
      rw [enlargedWithin, enlarged, if_neg henough, if_neg (by omega)]
      exact ih (by omega) hword hnext

theorem exists_enlargedWithin_eq (hpos : 0 < size) (hsize : size ≤ maxWord)
    (hneeded : needed ≤ maxWord) : ∃ k ≤ 64, IsLeast {k | needed ≤ size * 2 ^ k} k ∧
      enlargedWithin k size needed = some (min (size * 2 ^ k) maxWord) ∧
      enlarged size needed = min (size * 2 ^ k) maxWord := by
  obtain ⟨k, hk, hdoubled⟩ := ByteQueue.exists_doubled_eq hpos needed
  have hbits : needed ≤ size * 2 ^ 64 :=
    Nat.le_trans hneeded (Nat.le_trans (by decide) (Nat.le_mul_of_pos_left _ hpos))
  have henlarged : enlarged size needed = min (size * 2 ^ k) maxWord := by
    rw [enlarged_eq hpos hsize hneeded, hdoubled]
  exact ⟨k, hk.2 hbits, hk, henlarged ▸ enlargedWithin_eq hpos hsize hneeded hk.1, henlarged⟩

section fits

variable (h : q.Fits ceiling) (hceiling : ceiling ≤ maxWord)

include h hceiling

theorem exists_perform_block (hb : q.block.perform op = some (answer, b')) :
    ∃ r : ByteQueue, r.block = b' ∧ r.ceiling = ceiling ∧
      r.capacity = (q.perform op).2.capacity := by
  -- what is not proper either writes over other places of the block, or makes all of it valid
  by_cases hop : op.Proper q
  · rw [perform_block h hceiling hop] at hb
    cases hb
    exact ⟨_, rfl, (h.perform op).ceiling_eq, rfl⟩
  cases op with
  | write n offset bs =>
    rw [perform, reserve_block h hceiling] at hb
    rw [ByteQueue.perform]
    cases hr : q.reserve n with
    | error f =>
      rw [hr] at hb
      cases hb
      exact ⟨q, rfl, h.ceiling_eq, rfl⟩
    | ok r =>
      rw [hr] at hb
      change (r.block.write offset bs).bind _ = _ at hb
      obtain ⟨written, hwrite, hb⟩ := Option.bind_eq_some_iff.1 hb
      cases hb
      obtain ⟨hcapacity, hlength, hsame⟩ := overwrite_eq_some hwrite
      rw [capacity_block] at hcapacity
      rw [length_block] at hlength
      obtain ⟨r', hblock, hceiling', hcapacity'⟩ := exists_block_eq (b := b')
        (by rw [hlength, hcapacity]; exact Nat.le_add_right ..)
      refine ⟨r', hblock, ?_, ?_⟩
      · rw [hceiling', hsame]
        exact (h.reserve hr).ceiling_eq
      · rw [hcapacity', hcapacity]
        exact (ByteQueue.capacity_stage r _).symm
  | commit n =>
    cases hb
    exact ⟨q.commit n, (commit_block q n).symm, h.ceiling_eq, rfl⟩
  | _ => exact absurd trivial hop

theorem grows_block (hq : ByteQueue.StorageSize ceiling q.capacity) : q.block.Grows := by
  have hsize : ByteQueue.StorageSize q.ceiling q.capacity := h.ceiling_eq.symm ▸ hq
  refine {
    length_le := capacity_block q ▸ Nat.le_add_right ..
    size := (capacity_block q).symm ▸ hsize
    keeps := fun op answer b' hop hb => ?keeps
    room := fun n hn => ?room
    full := fun n hn => ?full }
  case keeps =>
    obtain ⟨r, rfl, -, hcapacity⟩ := exists_perform_block h hceiling hb
    rw [capacity_block, capacity_block, hcapacity]
    exact hsize.le_perform hop
  case room =>
    obtain ⟨r, hr⟩ := ByteQueue.exists_reserve_eq_ok hn
    have hword : q.length + n ≤ maxWord :=
      Nat.le_trans (h.ceiling_eq ▸ hn) hceiling
    refine ⟨r.spare.take n, r.block, if_pos hword, ?_, ?_⟩
    · rw [reserve_block h hceiling, hr]
    · rw [capacity_block, capacity_block]
      exact ByteQueue.growth_reserve hsize hr
  case full =>
    rw [reserve_block h hceiling, h.reserve_eq_error (h.ceiling_eq ▸ hn)]

end fits

theorem grows_of_storageSize (hceiling : b.ceiling ≤ maxWord) (hlength : b.length ≤ b.capacity)
    (hsize : ByteQueue.StorageSize b.ceiling b.capacity) : b.Grows := by
  obtain ⟨q, rfl, hsame, hcapacity⟩ := exists_block_eq hlength
  rw [← hcapacity] at hsize
  exact grows_block ⟨rfl, hsize.le⟩ hceiling hsize

theorem grows_run (hceiling : ceiling ≤ maxWord) (h : q.Fits ceiling)
    (hq : ByteQueue.StorageSize ceiling q.capacity) {ops : List Operation} {answers : List Answer}
    (hrun : q.block.run ops = some (answers, b)) : b.Grows ∧ b.ceiling = ceiling := by
  induction ops generalizing q answers with
  | nil =>
    cases hrun
    exact ⟨grows_block h hceiling hq, h.ceiling_eq⟩
  | cons op ops ih =>
    rw [run] at hrun
    obtain ⟨⟨answer, b'⟩, hop, hrest⟩ := Option.bind_eq_some_iff.1 hrun
    obtain ⟨⟨answers', last⟩, hlast, hdone⟩ := Option.bind_eq_some_iff.1 hrest
    cases hdone
    obtain ⟨r, rfl, hsame, hcapacity⟩ := exists_perform_block h hceiling hop
    have hsize := (h.ceiling_eq.symm ▸ hq : ByteQueue.StorageSize q.ceiling q.capacity).perform op
    rw [h.ceiling_eq, ← hcapacity] at hsize
    exact ih ⟨hsame, hsize.le⟩ hsize hlast

end Block

namespace ByteQueue

variable {ceiling : Nat}

/-- Whatever is done to a queue, its storage is none or a doubled seed, cut off at the ceiling. It
shrinks only in a reset, and room is made by the fewest doublings. So it is in machine words, for
every length and every ceiling; there the doubling ends as well. -/
theorem grows_by_doubling (hceiling : ceiling ≤ maxWord) (ops : List Operation) :
    let q := ((empty ceiling).run ops).2
    StorageSize ceiling q.capacity ∧
      (∀ op, op ≠ .reset → q.capacity ≤ (q.perform op).2.capacity) ∧
      (∀ n r, q.reserve n = .ok r → Growth ceiling q.capacity (q.length + n) r.capacity) ∧
      (∀ answers b, (Block.empty ceiling).run ops = some (answers, b) →
        b.Grows ∧ b.ceiling = ceiling) ∧
      (∀ b : Block, b.ceiling ≤ maxWord → b.length ≤ b.capacity →
        StorageSize b.ceiling b.capacity → b.Grows) ∧
      ∀ size needed, 0 < size → size ≤ maxWord → needed ≤ maxWord →
        ∃ k ≤ 64, IsLeast {k | needed ≤ size * 2 ^ k} k ∧
          Block.enlargedWithin k size needed = some (min (size * 2 ^ k) maxWord) ∧
          Block.enlarged size needed = min (size * 2 ^ k) maxWord := by
  intro q
  have hempty : StorageSize ceiling (empty ceiling).capacity := .inl rfl
  have hreached : q.Fits ceiling := (fits_empty ceiling).run ops
  have hsize : StorageSize ceiling q.capacity := storageSize_run (fits_empty ceiling) hempty ops
  have hsize' : StorageSize q.ceiling q.capacity := hreached.ceiling_eq.symm ▸ hsize
  refine ⟨hsize, fun op hop => hsize'.le_perform hop, fun n r hr => ?grown,
    fun answers b hrun => Block.grows_run hceiling (fits_empty ceiling) hempty hrun,
    fun b => Block.grows_of_storageSize, fun size needed => Block.exists_enlargedWithin_eq⟩
  case grown =>
    rw [← hreached.ceiling_eq]
    exact growth_reserve hsize' hr

theorem grows_by_doubling_thousand :
    let q := ((empty 1000).run [.append (List.replicate 300 7), .discard 10]).2
    1000 ≤ maxWord ∧ (∃ r, q.reserve 600 = .ok r ∧ Growth 1000 512 890 r.capacity ∧
        r.capacity = 1000) ∧
      (∃ k ≤ 64, IsLeast {k | maxWord ≤ seedSize * 2 ^ k} k ∧
        Block.enlargedWithin k seedSize maxWord = some (min (seedSize * 2 ^ k) maxWord)) ∧
      Block.enlargedWithin 55 seedSize maxWord = none ∧
      Block.enlargedWithin 56 seedSize maxWord = some maxWord := by
  intro q
  have hceiling : 1000 ≤ maxWord := by decide
  have hlength : q.length = 290 := by decide +kernel
  have hcapacity : q.capacity = 512 := by decide +kernel
  obtain ⟨r, hr⟩ : ∃ r, q.reserve 600 = .ok r := exists_reserve_eq_ok (by decide +kernel)
  have hthousand : (q.reserve 600).toOption.map capacity = some 1000 := by decide +kernel
  rw [hr] at hthousand
  obtain ⟨-, -, hgrowth, -, -, hrounds⟩ :=
    grows_by_doubling hceiling [.append (List.replicate 300 7), .discard 10]
  have hgrown := hgrowth 600 r hr
  change Growth 1000 q.capacity (q.length + 600) r.capacity at hgrown
  rw [hlength, hcapacity] at hgrown
  obtain ⟨k, hk, hleast, hdoubled, -⟩ :=
    hrounds seedSize maxWord seedSize_pos (by decide) (Nat.le_refl _)
  exact ⟨hceiling, ⟨r, hr, hgrown, Option.some.inj hthousand⟩, ⟨k, hk, hleast, hdoubled⟩,
    by decide, by decide⟩

end ByteQueue

end LineTunnel
