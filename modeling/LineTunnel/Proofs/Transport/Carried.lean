import LineTunnel.Proofs.Transport.Attempts

/-! What goes over a recorded stream while a queue is filled from it or drained into it. Filling
appends to the queue exactly the bytes taken from the stream; draining removes from its front
exactly the bytes that the stream accepted. Both hold on every way out of the two loops. A write
that fails leaves something in the queue. -/

namespace LineTunnel.Recorded

variable {σ : Type}

/-- Between two states of a stream these bytes were taken from it and accepted by it. -/
structure Carried (s s' : Recorded σ) (taken accepted : Bytes) : Prop where
  taken : s'.taken = s.taken ++ taken
  accepted : s'.accepted = s.accepted ++ accepted

theorem Carried.refl (s : Recorded σ) : Carried s s [] [] :=
  ⟨(List.append_nil _).symm, (List.append_nil _).symm⟩

theorem Carried.trans {s₁ s₂ s₃ : Recorded σ} {t₁ t₂ a₁ a₂ : Bytes}
    (h : Carried s₁ s₂ t₁ a₁) (h' : Carried s₂ s₃ t₂ a₂) :
    Carried s₁ s₃ (t₁ ++ t₂) (a₁ ++ a₂) := by
  refine ⟨?_, ?_⟩
  · rw [h'.taken, h.taken, List.append_assoc]
  · rw [h'.accepted, h.accepted, List.append_assoc]

def turn (f : σ → σ) (s : Recorded σ) : Recorded σ := { s with stream := f s.stream }

theorem carried_turn (f : σ → σ) (s : Recorded σ) : Carried s (s.turn f) [] [] :=
  ⟨(List.append_nil _).symm, (List.append_nil _).symm⟩

variable [Transport σ]

theorem carried_pendingError (s : Recorded σ) :
    Carried s (Transport.pendingError s).2 [] [] :=
  ⟨(List.append_nil _).symm, (List.append_nil _).symm⟩

theorem carried_read {s s' : Recorded σ} {n : Nat} {bs : Bytes}
    (h : Transport.read s n = (.ok bs, s')) : Carried s s' bs [] := by
  change s.read n = _ at h
  simp only [read, Prod.mk.injEq] at h
  obtain ⟨hr, rfl⟩ := h
  rw [hr]
  exact ⟨rfl, (List.append_nil _).symm⟩

theorem carried_read_error {s s' : Recorded σ} {n : Nat} {e : StreamError}
    (h : Transport.read s n = (.error e, s')) : Carried s s' [] [] := by
  change s.read n = _ at h
  simp only [read, Prod.mk.injEq] at h
  obtain ⟨hr, rfl⟩ := h
  rw [hr]
  exact ⟨rfl, (List.append_nil _).symm⟩

theorem carried_write {s s' : Recorded σ} {bs : Bytes} {n : Nat}
    (h : Transport.write s bs = (.ok n, s')) : Carried s s' [] (bs.take n) := by
  change s.write bs = _ at h
  simp only [write, Prod.mk.injEq] at h
  obtain ⟨hr, rfl⟩ := h
  rw [hr]
  exact ⟨(List.append_nil _).symm, rfl⟩

theorem carried_write_error {s s' : Recorded σ} {bs : Bytes} {e : StreamError}
    (h : Transport.write s bs = (.error e, s')) : Carried s s' [] [] := by
  change s.write bs = _ at h
  simp only [write, Prod.mk.injEq] at h
  obtain ⟨hr, rfl⟩ := h
  rw [hr]
  exact ⟨(List.append_nil _).symm, rfl⟩

theorem failedWrites_write {s s' : Recorded σ} {bs : Bytes} {result : Except StreamError Nat}
    (h : Transport.write s bs = (result, s')) (hresult : isFailedWrite result = false) :
    s'.failedWrites = s.failedWrites := by
  change s.write bs = _ at h
  simp only [write, Prod.mk.injEq] at h
  obtain ⟨hr, rfl⟩ := h
  rw [hr]
  simp [hresult]

theorem carried_fill (s : Recorded σ) (q : ByteQueue) :
    ∃ bs, Carried s (Transport.fill s q).2.1 bs [] ∧
      (Transport.fill s q).2.2.bytes = q.bytes ++ bs := by
  fun_induction Transport.fill s q with
  | case1 s q f hq => exact ⟨[], .refl s, (List.append_nil _).symm⟩
  | case2 s q q' hq s' hr =>
    refine ⟨[], carried_read hr, ?_⟩
    rw [(ByteQueue.reserve_eq_ok hq).1, List.append_nil]
  | case3 s q q' hq bs s' hr hbs ih =>
    obtain ⟨rest, hrest, hbytes⟩ := ih
    have hle : bs.length ≤ q'.spare.length :=
      Transport.length_read_le s _ bs (by rw [hr])
    refine ⟨bs ++ rest, (carried_read hr).trans hrest, ?_⟩
    rw [hbytes, ByteQueue.bytes_push hle, (ByteQueue.reserve_eq_ok hq).1, List.append_assoc]
  | case4 s q q' hq e s' hr hblocked =>
    refine ⟨[], carried_read_error hr, ?_⟩
    rw [(ByteQueue.reserve_eq_ok hq).1, List.append_nil]
  | case5 s q q' hq e s' hr hblocked hinterrupted ih =>
    obtain ⟨rest, hrest, hbytes⟩ := ih
    refine ⟨rest, (carried_read_error hr).trans hrest, ?_⟩
    rw [hbytes, (ByteQueue.reserve_eq_ok hq).1]
  | case6 s q q' hq e s' hr hblocked hinterrupted =>
    refine ⟨[], carried_read_error hr, ?_⟩
    rw [(ByteQueue.reserve_eq_ok hq).1, List.append_nil]

theorem failedWrites_fill (s : Recorded σ) (q : ByteQueue) :
    (Transport.fill s q).2.1.failedWrites = s.failedWrites :=
  Transport.fill_induction (P := fun s' : Recorded σ => s'.failedWrites = s.failedWrites)
    (fun _ _ _ hkept => hkept) rfl q

theorem carried_send (s : Recorded σ) (bs : Bytes) :
    Carried s (Transport.send s bs).2.1 [] (bs.take (Transport.send s bs).2.2) := by
  fun_induction Transport.send s bs with
  | case1 s => exact .refl s
  | case2 s bs hbs s' hw => exact carried_write hw
  | case3 s bs hbs n s' hw result s'' m hrest ih =>
    rw [hrest] at ih
    have h := (carried_write hw).trans ih
    rw [List.append_nil, ← List.take_add] at h
    exact h
  | case4 s bs hbs e s' hw hblocked => exact carried_write_error hw
  | case5 s bs hbs e s' hw hblocked hinterrupted ih => exact (carried_write_error hw).trans ih
  | case6 s bs hbs e s' hw hblocked hinterrupted => exact carried_write_error hw

theorem send_cases (s : Recorded σ) (bs : Bytes) :
    (Transport.send s bs).2.1.failedWrites = s.failedWrites ∨
      (Transport.send s bs).1 ≠ .ok () ∧ (Transport.send s bs).2.2 < bs.length := by
  fun_induction Transport.send s bs with
  | case1 s => exact .inl rfl
  | case2 s bs hbs s' hw => exact .inr ⟨by simp, List.length_pos_iff.2 hbs⟩
  | case3 s bs hbs n s' hw result s'' m hrest ih =>
    rw [hrest] at ih
    rcases ih with hsame | ⟨hfailed, hless⟩
    · exact .inl (hsame.trans (failedWrites_write hw rfl))
    · rw [List.length_drop] at hless
      dsimp only at hless ⊢
      exact .inr ⟨hfailed, by omega⟩
  | case4 s bs hbs e s' hw hblocked =>
    exact .inl (failedWrites_write hw (by simp [isFailedWrite, hblocked]))
  | case5 s bs hbs e s' hw hblocked hinterrupted ih =>
    have hwritten := failedWrites_write hw (by simp [isFailedWrite, hinterrupted])
    exact ih.imp (·.trans hwritten) id
  | case6 s bs hbs e s' hw hblocked hinterrupted =>
    exact .inr ⟨by simp, List.length_pos_iff.2 hbs⟩

theorem drain_cases (s : Recorded σ) (q : ByteQueue) :
    (Transport.drain s q).2.1.failedWrites = s.failedWrites ∨
      (Transport.drain s q).1 ≠ .ok () ∧ (Transport.drain s q).2.2.bytes ≠ [] := by
  refine (send_cases s q.bytes).imp id fun h => ⟨h.1, List.ne_nil_of_length_pos ?_⟩
  have hless := h.2
  change 0 < (q.bytes.drop (Transport.send s q.bytes).2.2).length
  rw [List.length_drop]
  omega

theorem carried_drain (s : Recorded σ) (q : ByteQueue) :
    ∃ bs, Carried s (Transport.drain s q).2.1 [] bs ∧
      q.bytes = bs ++ (Transport.drain s q).2.2.bytes :=
  ⟨_, carried_send s q.bytes, (List.take_append_drop _ _).symm⟩

end LineTunnel.Recorded
