import LineTunnel.Transport.Recorded

/-! The two loops between a queue and a stream, attempt by attempt. What every read with room for a
byte keeps is kept by a fill, and what every write of some bytes keeps is kept by a drain. No
attempt is made with nothing, and there are no more of them than the patience of the stream and the
bytes that can be moved allow. -/

namespace LineTunnel

variable {σ : Type}

namespace Recorded

def OffersSome (s : Recorded σ) : Prop := ∀ n ∈ s.offers, 0 < n

theorem OffersSome.of_concat {s s' : Recorded σ} {n : Nat} (h : s.OffersSome) (hn : 0 < n)
    (hs' : s'.offers = s.offers ++ [n]) : s'.OffersSome := by
  unfold OffersSome
  rw [hs']
  exact List.forall_mem_append.2 ⟨h, List.forall_mem_singleton.2 hn⟩

end Recorded

variable [Transport σ]

namespace Transport

variable {s s' : σ} {q q' : ByteQueue} {bs : Bytes} {e : StreamError}

theorem fill_of_full {f : Failure} (hq : q.reserve 1 = .error f) :
    fill s q = (.error f, s, q) := by
  rw [fill]
  split
  · next hfull =>
    cases hq.symm.trans hfull
    rfl
  · next hroom => cases hq.symm.trans hroom

theorem fill_of_read (hq : q.reserve 1 = .ok q') (hr : read s q'.spare.length = (.ok bs, s')) :
    fill s q =
      if bs = [] then (.error (.link .closedByPeer), s', q') else fill s' (q'.push bs) := by
  rw [fill]
  split
  · next hfull => cases hq.symm.trans hfull
  · next hroom =>
    cases hq.symm.trans hroom
    split
    · next hread =>
      cases hr.symm.trans hread
      rfl
    · next hread => cases hr.symm.trans hread

theorem fill_of_failed_read (hq : q.reserve 1 = .ok q')
    (hr : read s q'.spare.length = (.error e, s')) :
    fill s q =
      if e.isBlocked then (.ok (), s', q')
      else if e.isInterrupted then fill s' q'
      else (.error e.toFailure, s', q') := by
  rw [fill]
  split
  · next hfull => cases hq.symm.trans hfull
  · next hroom =>
    cases hq.symm.trans hroom
    split
    · next hread => cases hr.symm.trans hread
    · next hread =>
      cases hr.symm.trans hread
      rfl

theorem fill_of_reserved (hq : q.reserve 1 = .ok q') : fill s q = fill s q' := by
  have hagain := ByteQueue.reserve_of_reserved hq
  rcases hr : read s q'.spare.length with ⟨e | bs, s'⟩
  · rw [fill_of_failed_read hq hr, fill_of_failed_read hagain hr]
  · rw [fill_of_read hq hr, fill_of_read hagain hr]

theorem fill_induction {P : σ → Prop} (hread : ∀ s n, 0 < n → P s → P (read s n).2) (h : P s)
    (q : ByteQueue) : P (fill s q).2.1 := by
  have hstep {s s' : σ} {q q' : ByteQueue} {result : Except StreamError Bytes}
      (hq : q.reserve 1 = .ok q') (hr : read s q'.spare.length = (result, s')) (h : P s) :
      P s' := by
    have hkept := hread s q'.spare.length (ByteQueue.reserve_eq_ok hq).2.2.1 h
    rwa [hr] at hkept
  fun_induction fill s q with
  | case1 s q f hq => exact h
  | case2 s q q' hq s' hr => exact hstep hq hr h
  | case3 s q q' hq bs s' hr hbs ih => exact ih (hstep hq hr h)
  | case4 s q q' hq e s' hr hblocked => exact hstep hq hr h
  | case5 s q q' hq e s' hr hblocked hinterrupted ih => exact ih (hstep hq hr h)
  | case6 s q q' hq e s' hr hblocked hinterrupted => exact hstep hq hr h

theorem send_nil : send s [] = (.ok (), s, 0) := by
  rw [send, if_pos rfl]

theorem send_of_none (hbs : bs ≠ []) (hw : write s bs = (.ok 0, s')) :
    send s bs = (.error (.link .closedByPeer), s', 0) := by
  rw [send, if_neg hbs]
  split
  · next hwrite =>
    cases hw.symm.trans hwrite
    rfl
  · next hwrite => cases hw.symm.trans hwrite
  · next hwrite => cases hw.symm.trans hwrite

theorem send_of_some {n : Nat} (hbs : bs ≠ []) (hw : write s bs = (.ok (n + 1), s')) :
    send s bs = ((send s' (bs.drop (n + 1))).1, (send s' (bs.drop (n + 1))).2.1,
      n + 1 + (send s' (bs.drop (n + 1))).2.2) := by
  rw [send, if_neg hbs]
  split
  · next hwrite => cases hw.symm.trans hwrite
  · next hwrite =>
    cases hw.symm.trans hwrite
    rfl
  · next hwrite => cases hw.symm.trans hwrite

theorem send_of_failed_write (hbs : bs ≠ []) (hw : write s bs = (.error e, s')) :
    send s bs =
      if e.isBlocked then (.ok (), s', 0)
      else if e.isInterrupted then send s' bs
      else (.error e.toFailure, s', 0) := by
  rw [send, if_neg hbs]
  split
  · next hwrite => cases hw.symm.trans hwrite
  · next hwrite => cases hw.symm.trans hwrite
  · next hwrite =>
    cases hw.symm.trans hwrite
    rfl

theorem send_induction {P : σ → Prop} (hwrite : ∀ s bs, bs ≠ [] → P s → P (write s bs).2)
    (h : P s) (bs : Bytes) : P (send s bs).2.1 := by
  have hstep {s s' : σ} {bs : Bytes} {result : Except StreamError Nat} (hbs : bs ≠ [])
      (hw : write s bs = (result, s')) (h : P s) : P s' := by
    have hkept := hwrite s bs hbs h
    rwa [hw] at hkept
  fun_induction send s bs with
  | case1 s => exact h
  | case2 s bs hbs s' hw => exact hstep hbs hw h
  | case3 s bs hbs n s' hw result s'' m hrest ih =>
    have hkept := ih (hstep hbs hw h)
    rwa [hrest] at hkept
  | case4 s bs hbs e s' hw hblocked => exact hstep hbs hw h
  | case5 s bs hbs e s' hw hblocked hinterrupted ih => exact ih (hstep hbs hw h)
  | case6 s bs hbs e s' hw hblocked hinterrupted => exact hstep hbs hw h

end Transport

namespace Recorded

open Transport (fill send)

variable {s s' : Recorded σ}

theorem read_stream {n : Nat} {result : Except StreamError Bytes}
    (h : Transport.read s n = (result, s')) :
    Transport.read s.stream n = (result, s'.stream) := by
  change s.read n = _ at h
  simp only [read, Prod.mk.injEq] at h
  obtain ⟨rfl, rfl⟩ := h
  rfl

theorem write_stream {bs : Bytes} {result : Except StreamError Nat}
    (h : Transport.write s bs = (result, s')) :
    Transport.write s.stream bs = (result, s'.stream) := by
  change s.write bs = _ at h
  simp only [write, Prod.mk.injEq] at h
  obtain ⟨rfl, rfl⟩ := h
  rfl

theorem fill_stream (s : Recorded σ) (q : ByteQueue) :
    fill s.stream q = ((fill s q).1, (fill s q).2.1.stream, (fill s q).2.2) := by
  fun_induction fill s q with
  | case1 s q f hq => exact Transport.fill_of_full hq
  | case2 s q q' hq s' hr => exact Transport.fill_of_read hq (read_stream hr)
  | case3 s q q' hq bs s' hr hbs ih =>
    rw [Transport.fill_of_read hq (read_stream hr), if_neg hbs, ih]
  | case4 s q q' hq e s' hr hblocked =>
    rw [Transport.fill_of_failed_read hq (read_stream hr), if_pos hblocked]
  | case5 s q q' hq e s' hr hblocked hinterrupted ih =>
    rw [Transport.fill_of_failed_read hq (read_stream hr), if_neg hblocked, if_pos hinterrupted, ih]
  | case6 s q q' hq e s' hr hblocked hinterrupted =>
    rw [Transport.fill_of_failed_read hq (read_stream hr), if_neg hblocked, if_neg hinterrupted]

theorem send_stream (s : Recorded σ) (bs : Bytes) :
    send s.stream bs = ((send s bs).1, (send s bs).2.1.stream, (send s bs).2.2) := by
  fun_induction send s bs with
  | case1 s => exact Transport.send_nil
  | case2 s bs hbs s' hw => exact Transport.send_of_none hbs (write_stream hw)
  | case3 s bs hbs n s' hw result s'' m hrest ih =>
    rw [Transport.send_of_some hbs (write_stream hw), ih, hrest]
  | case4 s bs hbs e s' hw hblocked =>
    rw [Transport.send_of_failed_write hbs (write_stream hw), if_pos hblocked]
  | case5 s bs hbs e s' hw hblocked hinterrupted ih =>
    rw [Transport.send_of_failed_write hbs (write_stream hw), if_neg hblocked, if_pos hinterrupted,
      ih]
  | case6 s bs hbs e s' hw hblocked hinterrupted =>
    rw [Transport.send_of_failed_write hbs (write_stream hw), if_neg hblocked,
      if_neg hinterrupted]

theorem offers_read (s : Recorded σ) (n : Nat) :
    (Transport.read s n).2.offers = s.offers ++ [n] := rfl

theorem offers_write (s : Recorded σ) (bs : Bytes) :
    (Transport.write s bs).2.offers = s.offers ++ [bs.length] := rfl

theorem OffersSome.fill (h : s.OffersSome) (q : ByteQueue) :
    (Transport.fill s q).2.1.OffersSome :=
  Transport.fill_induction (P := OffersSome)
    (fun s n hn hkept => hkept.of_concat hn (offers_read s n)) h q

theorem OffersSome.send (h : s.OffersSome) (bs : Bytes) :
    (Transport.send s bs).2.1.OffersSome :=
  Transport.send_induction (P := OffersSome)
    (fun s bs hbs hkept => hkept.of_concat (List.length_pos_iff.2 hbs) (offers_write s bs)) h bs

theorem length_offers_fill_le (s : Recorded σ) (q : ByteQueue) :
    (fill s q).2.1.offers.length ≤ s.offers.length + Transport.patience s + q.room := by
  have hone {s s' : Recorded σ} {n : Nat} {result : Except StreamError Bytes}
      (hr : Transport.read s n = (result, s')) : s'.offers.length = s.offers.length + 1 := by
    have hoffers := congrArg List.length (offers_read s n)
    rw [hr, List.length_append] at hoffers
    exact hoffers
  have hroom {q q' : ByteQueue} (hq : q.reserve 1 = .ok q') :
      0 < q'.spare.length ∧ q'.room = q.room ∧ 0 < q.room := by
    have hspare := (ByteQueue.reserve_eq_ok hq).2.2.1
    have heq := ByteQueue.room_reserve hq
    exact ⟨hspare, heq, heq ▸ Nat.lt_of_lt_of_le hspare q'.length_spare_le_room⟩
  have hlast {s s' : Recorded σ} {q q' : ByteQueue} {result : Except StreamError Bytes}
      (hq : q.reserve 1 = .ok q') (hr : Transport.read s q'.spare.length = (result, s')) :
      s'.offers.length ≤ s.offers.length + Transport.patience s + q.room := by
    have := hone hr
    have := hroom hq
    omega
  fun_induction fill s q with
  | case1 s q f hq => exact Nat.le_trans (Nat.le_add_right ..) (Nat.le_add_right ..)
  | case2 s q q' hq s' hr => exact hlast hq hr
  | case3 s q q' hq bs s' hr hbs ih =>
    obtain ⟨hspare, heq, -⟩ := hroom hq
    have hoffers := hone hr
    have hless := ByteQueue.room_push_lt hbs hspare
    have hpatience : Transport.patience s' ≤ Transport.patience s := by
      have hle := Transport.patience_read_le s q'.spare.length
      rwa [hr] at hle
    omega
  | case4 s q q' hq e s' hr hblocked => exact hlast hq hr
  | case5 s q q' hq e s' hr hblocked hinterrupted ih =>
    obtain ⟨-, heq, -⟩ := hroom hq
    have hoffers := hone hr
    have hpatience : Transport.patience s' < Transport.patience s := by
      have hlt := Transport.patience_read_lt s q'.spare.length e (by rw [hr]) hinterrupted
      rwa [hr] at hlt
    omega
  | case6 s q q' hq e s' hr hblocked hinterrupted => exact hlast hq hr

theorem length_offers_send_le (s : Recorded σ) (bs : Bytes) :
    (send s bs).2.1.offers.length ≤ s.offers.length + Transport.patience s + bs.length := by
  have hone {s s' : Recorded σ} {bs : Bytes} {result : Except StreamError Nat}
      (hw : Transport.write s bs = (result, s')) : s'.offers.length = s.offers.length + 1 := by
    have hoffers := congrArg List.length (offers_write s bs)
    rw [hw, List.length_append] at hoffers
    exact hoffers
  have hlast {s s' : Recorded σ} {bs : Bytes} {result : Except StreamError Nat} (hbs : bs ≠ [])
      (hw : Transport.write s bs = (result, s')) :
      s'.offers.length ≤ s.offers.length + Transport.patience s + bs.length := by
    have := hone hw
    have := List.length_pos_iff.2 hbs
    omega
  fun_induction send s bs with
  | case1 s => exact Nat.le_trans (Nat.le_add_right ..) (Nat.le_add_right ..)
  | case2 s bs hbs s' hw => exact hlast hbs hw
  | case3 s bs hbs n s' hw result s'' m hrest ih =>
    rw [hrest, List.length_drop] at ih
    have hoffers := hone hw
    have hpos := List.length_pos_iff.2 hbs
    have hpatience : Transport.patience s' ≤ Transport.patience s := by
      have hle := Transport.patience_write_le s bs
      rwa [hw] at hle
    dsimp only at ih ⊢
    omega
  | case4 s bs hbs e s' hw hblocked => exact hlast hbs hw
  | case5 s bs hbs e s' hw hblocked hinterrupted ih =>
    have hoffers := hone hw
    have hpatience : Transport.patience s' < Transport.patience s := by
      have hlt := Transport.patience_write_lt s bs e (by rw [hw]) hinterrupted
      rwa [hw] at hlt
    omega
  | case6 s bs hbs e s' hw hblocked hinterrupted => exact hlast hbs hw

end Recorded

end LineTunnel
