import LineTunnel.Proofs.Transport.Carried
import LineTunnel.Proofs.Transport.Endings

/-! A queue that is filled from a script. The bytes that the script gives before it ends decide all:
if they leave room in the queue, they are all taken and the fill ends as the script does; if they
reach the ceiling, the queue is full. What is not taken stays in the script. -/

namespace LineTunnel

open Transport (Ending fill)

namespace Transport.Ending

theorem result_ne_bufferFull (ending : Ending) : ending.result ≠ .error (.link .bufferFull) := by
  cases ending with
  | blocked => exact nofun
  | endOfStream => exact nofun
  | broken e => cases e <;> exact nofun

end Transport.Ending

namespace Script

variable {s : Script} {q : ByteQueue}

theorem contents_fill (s : Recorded Script) (q : ByteQueue) :
    (fill s q).2.1.taken ++ contents (fill s q).2.1.stream.reads =
      s.taken ++ contents s.stream.reads := by
  refine Transport.fill_induction (P := fun s' : Recorded Script =>
    s'.taken ++ contents s'.stream.reads = s.taken ++ contents s.stream.reads)
    (fun s' n _ hkept => ?_) rfl q
  rw [← hkept, contents_read s'.stream n, ← List.append_assoc]
  rfl

theorem fill_withoutRetries (s : Script) (q : ByteQueue) :
    fill s.withoutRetries q =
      ((fill s q).1, (fill s q).2.1.withoutRetries, (fill s q).2.2) := by
  fun_induction fill s q with
  | case1 s q f hq => exact Transport.fill_of_full hq
  | case2 s q q' hq s' hr =>
    exact Transport.fill_of_read hq (read_withoutRetries hr fun _ he => by cases he)
  | case3 s q q' hq bs s' hr hbs ih =>
    rw [Transport.fill_of_read hq (read_withoutRetries hr fun _ he => by cases he), if_neg hbs, ih]
  | case4 s q q' hq e s' hr hblocked =>
    have hread := read_withoutRetries hr fun _ he =>
      Except.error.inj he ▸ StreamError.ending?_ne_none (.inl hblocked)
    rw [Transport.fill_of_failed_read hq hread, if_pos hblocked]
  | case5 s q q' hq e s' hr hblocked hinterrupted ih =>
    rw [withoutRetries_of_read hr (StreamError.ending?_of_interrupted hblocked hinterrupted),
      Transport.fill_of_reserved hq, ih]
  | case6 s q q' hq e s' hr hblocked hinterrupted =>
    have hread := read_withoutRetries hr fun _ he =>
      Except.error.inj he ▸ StreamError.ending?_ne_none (.inr hinterrupted)
    rw [Transport.fill_of_failed_read hq hread, if_neg hblocked, if_neg hinterrupted]

theorem room_of_capacity_le (hq : q.capacity ≤ q.ceiling) : q.room = q.ceiling - q.length :=
  ByteQueue.Fits.room_eq ⟨rfl, hq⟩

theorem fill_script (hq : q.capacity ≤ q.ceiling) (hs : s.Filled) :
    (fill ({ stream := s } : Recorded Script) q).1 =
        (if q.length + (given s.reads).length < q.ceiling then (readEnding s.reads).result
        else .error (.link .bufferFull)) ∧
      (fill ({ stream := s } : Recorded Script) q).2.1.taken =
        (given s.reads).take (q.ceiling - q.length) ∧
      (fill ({ stream := s } : Recorded Script) q).2.2.bytes =
        q.bytes ++ (fill ({ stream := s } : Recorded Script) q).2.1.taken := by
  have hgives : Transport.Gives ({ stream := s } : Recorded Script) (given s.reads)
      (readEnding s.reads) := Recorded.gives (gives_given hs) rfl
  obtain ⟨hresult, hbytes⟩ := Transport.fill_of_gives hgives q
  obtain ⟨bs, hcarried, hfilled⟩ := Recorded.carried_fill { stream := s } q
  have htaken : (fill ({ stream := s } : Recorded Script) q).2.1.taken = bs := hcarried.taken
  rw [room_of_capacity_le hq] at hresult hbytes
  refine ⟨hresult.trans ?_, ?_, htaken.symm ▸ hfilled⟩
  · congr 1
    exact propext (by omega)
  · rw [htaken]
    exact List.append_cancel_left (hfilled.symm.trans hbytes)

/-- What comes of filling a queue from a script. -/
structure Fills (s : Script) (q : ByteQueue)
    (r : Except Failure Unit × Recorded Script × ByteQueue) : Prop where
  attempts_le : r.2.1.offers.length ≤ s.size + (q.ceiling - q.length)
  offersSome : r.2.1.OffersSome
  reads_eq : ∀ (t t' : Script) (n : Nat), t.Filled → n ∈ r.2.1.offers →
    Transport.read t n = (.ok [], t') → t.reads = .endOfStream :: t'.reads
  bytes_eq : r.2.2.bytes = q.bytes ++ r.2.1.taken
  contents_eq : contents s.reads = r.2.1.taken ++ contents r.2.1.stream.reads
  ended : q.length + (given s.reads).length < q.ceiling →
    r.1 = (readEnding s.reads).result ∧ r.2.1.taken = given s.reads
  ok_iff : r.1 = .ok () ↔
    q.length + (given s.reads).length < q.ceiling ∧ readEnding s.reads = .blocked
  full_iff : r.1 = .error (.link .bufferFull) ↔ q.ceiling ≤ q.length + (given s.reads).length
  length_of_full : r.1 = .error (.link .bufferFull) → r.2.2.length = q.ceiling
  withoutRetries_eq : fill s.withoutRetries q = (r.1, r.2.1.stream.withoutRetries, r.2.2)

theorem fills_script (hq : q.capacity ≤ q.ceiling) (hs : s.Filled) :
    s.Fills q (fill ({ stream := s } : Recorded Script) q) := by
  obtain ⟨hresult, htaken, hbytes⟩ := fill_script hq hs
  have hoffers : (fill ({ stream := s } : Recorded Script) q).2.1.OffersSome :=
    Recorded.OffersSome.fill (s := { stream := s }) nofun q
  have hfull : (fill ({ stream := s } : Recorded Script) q).1 = .error (.link .bufferFull) ↔
      q.ceiling ≤ q.length + (given s.reads).length := by
    rw [hresult, ← Nat.not_lt]
    split
    · next hfits =>
      exact ⟨fun hfull => absurd hfull (Ending.result_ne_bufferFull _),
        fun hover => absurd hfits hover⟩
    · next hover => exact ⟨fun _ => hover, fun _ => rfl⟩
  refine {
    attempts_le := ?attempts
    offersSome := hoffers
    reads_eq := fun t t' n ht hn => reads_eq_of_read_nil ht (hoffers n hn)
    bytes_eq := hbytes
    contents_eq := (contents_fill { stream := s } q).symm
    ended := ?ended
    ok_iff := ?ok
    full_iff := hfull
    length_of_full := ?length
    withoutRetries_eq := ?retries }
  case attempts =>
    have hattempts := Recorded.length_offers_fill_le { stream := s } q
    rw [room_of_capacity_le hq, List.length_nil, Nat.zero_add] at hattempts
    exact hattempts
  case ended =>
    intro hfits
    rw [htaken, hresult, if_pos hfits]
    exact ⟨rfl, List.take_of_length_le (by omega)⟩
  case ok =>
    rw [hresult, ← Ending.result_eq_ok]
    split
    · next hfits => exact ⟨fun hok => ⟨hfits, hok⟩, And.right⟩
    · next hover => exact ⟨nofun, fun hok => absurd hok.1 hover⟩
  case length =>
    intro hover
    have hroom := hfull.1 hover
    have hle : q.length ≤ q.ceiling := Nat.le_trans (Nat.le_add_right ..) hq
    rw [ByteQueue.length, hbytes, htaken, List.length_append, List.length_take]
    unfold ByteQueue.length at hroom hle ⊢
    omega
  case retries => rw [fill_withoutRetries, Recorded.fill_stream { stream := s } q]

theorem fills_script_until_reset :
    let s : Script := {
      reads := [.data [1, 2, 3], .fail (.errno 4), .data [4, 5], .fail (.errno 104), .data [6]] }
    let q : ByteQueue := ⟨[0], [], 7⟩
    let r := fill ({ stream := s } : Recorded Script) q
    s.Fills q r ∧ r.1 = .error (.os 104) ∧ r.2.2.bytes = [0, 1, 2, 3, 4, 5] ∧
      contents r.2.1.stream.reads = [6] := by
  intro s q r
  have hfills : s.Fills q r := fills_script (by decide) (show .data [] ∉ s.reads by decide)
  obtain ⟨hresult, htaken⟩ := hfills.ended (by decide)
  have hcontents : [1, 2, 3, 4, 5] ++ [6] = given s.reads ++ contents r.2.1.stream.reads := by
    rw [← htaken]
    exact hfills.contents_eq
  refine ⟨hfills, hresult, ?_, (List.append_cancel_left hcontents).symm⟩
  rw [hfills.bytes_eq, htaken]
  rfl

end Script

end LineTunnel
