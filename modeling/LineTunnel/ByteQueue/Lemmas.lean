import LineTunnel.ByteQueue

/-! What each operation of a byte queue does to the valid bytes, to the storage and to the room
that is left. -/

namespace LineTunnel.ByteQueue

theorem isEmpty_iff (q : ByteQueue) : q.isEmpty ↔ q.length = 0 :=
  List.isEmpty_iff.trans List.length_eq_zero_iff.symm

theorem le_doubled {size needed : Nat} (h : 0 < size) : needed ≤ doubled size needed := by
  fun_induction doubled size needed with
  | case1 size hs => omega
  | case2 size hs ih => exact ih (by omega)

theorem seedSize_pos : 0 < seedSize := by decide

theorem le_grownCapacity {q : ByteQueue} {needed : Nat} (h : needed ≤ q.ceiling) :
    needed ≤ q.grownCapacity needed := by
  refine Nat.le_min.2 ⟨le_doubled ?_, h⟩
  split
  · exact seedSize_pos
  · omega

theorem grownCapacity_le (q : ByteQueue) (needed : Nat) : q.grownCapacity needed ≤ q.ceiling :=
  Nat.min_le_right ..

theorem reserve_cases {q r : ByteQueue} {n : Nat} (h : q.reserve n = .ok r) :
    ∃ k, r = { q with spare := q.spare ++ List.replicate k 0 } ∧ n ≤ q.spare.length + k ∧
      (k = 0 ∨ q.capacity + k ≤ q.ceiling) := by
  unfold reserve at h
  dsimp only at h
  split at h
  · next hfit =>
    cases h
    refine ⟨0, by rw [List.replicate_zero, List.append_nil], ?_, .inl rfl⟩
    unfold length capacity at hfit
    omega
  · next hfit =>
    split at h
    · cases h
    · next hceiling =>
      have hle := le_grownCapacity (q := q) (Nat.le_of_not_lt hceiling)
      have hge := grownCapacity_le q (q.length + n)
      simp only [length, capacity] at hfit hle hge
      refine ⟨_, (Except.ok.inj h).symm, ?_, .inr ?_⟩ <;> simp only [length, capacity] <;> omega

theorem room_reserve {q r : ByteQueue} {n : Nat} (h : q.reserve n = .ok r) : r.room = q.room := by
  obtain ⟨k, rfl, -, hk⟩ := reserve_cases h
  simp only [room, length, capacity, List.length_append, List.length_replicate] at hk ⊢
  omega

theorem reserve_eq_ok {q r : ByteQueue} {n : Nat} (h : q.reserve n = .ok r) :
    r.bytes = q.bytes ∧ r.ceiling = q.ceiling ∧ n ≤ r.spare.length ∧ r.room ≤ q.room := by
  have hroom := room_reserve h
  obtain ⟨k, rfl, hn, -⟩ := reserve_cases h
  refine ⟨rfl, rfl, ?_, Nat.le_of_eq hroom⟩
  rw [List.length_append, List.length_replicate]
  exact hn

theorem reserve_eq_error {q : ByteQueue} {n : Nat} (hcapacity : q.capacity < q.length + n)
    (hceiling : q.ceiling < q.length + n) : q.reserve n = .error (.link .bufferFull) := by
  unfold reserve
  dsimp only
  rw [if_neg (Nat.not_le.2 hcapacity), if_pos hceiling]

theorem reserve_of_reserved {q r : ByteQueue} {n : Nat} (h : q.reserve n = .ok r) :
    r.reserve n = .ok r := by
  have hspare := (reserve_eq_ok h).2.2.1
  refine if_pos ?_
  unfold length capacity
  omega

@[simp] theorem length_spare_stage (q : ByteQueue) (bs : Bytes) :
    (q.stage bs).spare.length = q.spare.length := by
  simp only [stage, List.length_append, List.length_take, List.length_drop]
  omega

@[simp] theorem capacity_stage (q : ByteQueue) (bs : Bytes) :
    (q.stage bs).capacity = q.capacity :=
  congrArg (q.length + ·) (length_spare_stage q bs)

@[simp] theorem capacity_commit (q : ByteQueue) (n : Nat) :
    (q.commit n).capacity = q.capacity := by
  simp only [commit, capacity, List.length_append, List.length_take, List.length_drop]
  omega

@[simp] theorem capacity_push (q : ByteQueue) (bs : Bytes) :
    (q.push bs).capacity = q.capacity :=
  (capacity_commit _ _).trans (capacity_stage q bs)

theorem bytes_push {q : ByteQueue} {bs : Bytes} (h : bs.length ≤ q.spare.length) :
    (q.push bs).bytes = q.bytes ++ bs := by
  simp [push, commit, stage, List.take_of_length_le h]

theorem room_push_lt {q : ByteQueue} {bs : Bytes} (hbs : bs ≠ []) (hq : 0 < q.spare.length) :
    (q.push bs).room < q.room := by
  have hcap := capacity_push q bs
  have hpos := List.length_pos_iff.2 hbs
  have hlen : q.length < (q.push bs).length := by
    have := length_spare_stage q bs
    simp only [push, commit, length, List.length_append, List.length_take, this]
    simp only [stage]
    omega
  have hle : (q.push bs).length ≤ (q.push bs).capacity := Nat.le_add_right ..
  have hceil : (q.push bs).ceiling = q.ceiling := rfl
  simp only [room, hcap, hceil] at hle ⊢
  omega

theorem length_spare_le_room (q : ByteQueue) : q.spare.length ≤ q.room := by
  simp only [room, capacity, length]
  omega

theorem room_push {q : ByteQueue} {bs : Bytes} (h : bs.length ≤ q.spare.length) :
    (q.push bs).room = q.room - bs.length := by
  have hceiling : (q.push bs).ceiling = q.ceiling := rfl
  have hlength : (q.push bs).length = q.length + bs.length := by
    rw [length, bytes_push h, List.length_append]
    rfl
  simp only [room, capacity_push, hceiling, hlength]
  omega

theorem reserve_one_eq_error {q : ByteQueue} {f : Failure} (h : q.reserve 1 = .error f) :
    q.room = 0 ∧ f = .link .bufferFull := by
  simp only [reserve] at h
  split at h
  · cases h
  · next hfit =>
    split at h
    · next hceil =>
      cases h
      refine ⟨?_, rfl⟩
      unfold room
      omega
    · cases h

theorem bytes_append {q r : ByteQueue} {bs : Bytes} (h : q.append bs = .ok r) :
    r.bytes = q.bytes ++ bs := by
  unfold append at h
  cases hq : q.reserve bs.length with
  | error f =>
    rw [hq] at h
    cases h
  | ok q' =>
    rw [hq] at h
    cases h
    obtain ⟨hbytes, -, hspare, -⟩ := reserve_eq_ok hq
    rw [bytes_push hspare, hbytes]

theorem append_eq_error {q : ByteQueue} {bs : Bytes} (hcapacity : q.capacity < q.length + bs.length)
    (hceiling : q.ceiling < q.length + bs.length) : q.append bs = .error (.link .bufferFull) := by
  unfold append
  rw [reserve_eq_error hcapacity hceiling]
  rfl

theorem eq_bufferFull_of_append {q : ByteQueue} {bs : Bytes} {f : Failure}
    (h : q.append bs = .error f) : f = .link .bufferFull := by
  unfold append reserve at h
  dsimp only at h
  split at h
  · cases h
  split at h
  · cases h
    rfl
  · cases h

@[simp] theorem bytes_discard (q : ByteQueue) (n : Nat) :
    (q.discard n).bytes = q.bytes.drop n := rfl

@[simp] theorem capacity_discard (q : ByteQueue) (n : Nat) :
    (q.discard n).capacity = q.capacity := by
  simp only [discard, capacity, List.length_append, List.length_drop, length]
  omega

@[simp] theorem length_reset (q : ByteQueue) : q.reset.length = 0 := rfl

theorem consume_eq_some {q r : ByteQueue} {n : Nat} {bs : Bytes}
    (h : q.consume n = some (bs, r)) :
    n ≤ q.length ∧ bs = q.bytes.take n ∧ r = q.discard n := by
  simp only [consume, peek, Option.map_eq_some_iff] at h
  obtain ⟨a, ha, he⟩ := h
  split at ha <;> simp_all

theorem consume_eq_none {q : ByteQueue} {n : Nat} : q.consume n = none ↔ q.length < n := by
  simp [consume, peek]

structure Fits (q : ByteQueue) (ceiling : Nat) : Prop where
  ceiling_eq : q.ceiling = ceiling
  capacity_le : q.capacity ≤ ceiling

variable {q r : ByteQueue} {ceiling n : Nat}

theorem fits_empty (ceiling : Nat) : (empty ceiling).Fits ceiling := ⟨rfl, Nat.zero_le _⟩

theorem Fits.reset (h : q.Fits ceiling) : q.reset.Fits ceiling :=
  ⟨h.ceiling_eq, Nat.zero_le _⟩

theorem Fits.reserve (h : q.Fits ceiling) (hr : q.reserve n = .ok r) : r.Fits ceiling := by
  have hceiling := h.ceiling_eq
  have hcapacity := h.capacity_le
  obtain ⟨k, rfl, -, hk⟩ := reserve_cases hr
  refine ⟨hceiling, ?_⟩
  simp only [capacity, List.length_append, List.length_replicate] at hcapacity hk ⊢
  omega

theorem Fits.stage (h : q.Fits ceiling) (bs : Bytes) : (q.stage bs).Fits ceiling :=
  ⟨h.ceiling_eq, (capacity_stage q bs).symm ▸ h.capacity_le⟩

theorem Fits.commit (h : q.Fits ceiling) (n : Nat) : (q.commit n).Fits ceiling :=
  ⟨h.ceiling_eq, (capacity_commit q n).symm ▸ h.capacity_le⟩

theorem Fits.push (h : q.Fits ceiling) (bs : Bytes) : (q.push bs).Fits ceiling :=
  (h.stage bs).commit bs.length

theorem Fits.append {bs : Bytes} (h : q.Fits ceiling) (hr : q.append bs = .ok r) :
    r.Fits ceiling := by
  unfold ByteQueue.append at hr
  cases hq : q.reserve bs.length with
  | error f =>
    rw [hq] at hr
    cases hr
  | ok q' =>
    rw [hq] at hr
    cases hr
    exact (h.reserve hq).push bs

theorem Fits.discard (h : q.Fits ceiling) (n : Nat) : (q.discard n).Fits ceiling :=
  ⟨h.ceiling_eq, (capacity_discard q n).symm ▸ h.capacity_le⟩

theorem Fits.room_eq (h : q.Fits ceiling) : q.room = ceiling - q.length := by
  unfold room
  rw [h.ceiling_eq, Nat.max_eq_left h.capacity_le]

theorem Fits.reserve_eq_error (h : q.Fits ceiling) (hn : ceiling < q.length + n) :
    q.reserve n = .error (.link .bufferFull) :=
  ByteQueue.reserve_eq_error (Nat.lt_of_le_of_lt h.capacity_le hn) (h.ceiling_eq ▸ hn)

theorem exists_reserve_eq_ok (h : q.length + n ≤ q.ceiling) : ∃ r, q.reserve n = .ok r := by
  unfold reserve
  dsimp only
  split
  · exact ⟨q, rfl⟩
  · rw [if_neg (Nat.not_lt.2 h)]
    exact ⟨_, rfl⟩

theorem Fits.reserve_eq_error_iff (h : q.Fits ceiling) :
    q.reserve n = .error (.link .bufferFull) ↔ q.ceiling < q.length + n := by
  refine ⟨fun hr => Nat.lt_of_not_le fun hroom => ?_, fun hn => ?_⟩
  · obtain ⟨r, hok⟩ := exists_reserve_eq_ok hroom
    cases hr.symm.trans hok
  · exact h.reserve_eq_error (h.ceiling_eq ▸ hn)

theorem exists_append_eq_ok {bs : Bytes} (h : q.length + bs.length ≤ q.ceiling) :
    ∃ r, q.append bs = .ok r := by
  obtain ⟨r, hr⟩ := exists_reserve_eq_ok h
  unfold append
  rw [hr]
  exact ⟨r.push bs, rfl⟩

end LineTunnel.ByteQueue
