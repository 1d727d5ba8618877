import LineTunnel.Proofs.Transport.Attempts
import LineTunnel.Transport.Script

/-! A stream that gives some bytes and then comes to an end, for now or for good. However they are
asked for, the bytes come in order, in parts of any size and with interruptions. A queue is filled
with as many of them as it has room for: if that is all and more, the fill ends as the stream does,
and otherwise it fails because the queue is full. -/

namespace LineTunnel

variable {σ : Type} [Transport σ]

namespace Transport

inductive Ending where
  | blocked
  | endOfStream
  | broken (e : StreamError)
  deriving DecidableEq, Repr

namespace Ending

def failure? : Ending → Option Failure
  | blocked => none
  | endOfStream => some (.link .closedByPeer)
  | broken e => some e.toFailure

def result (ending : Ending) : Except Failure Unit :=
  match ending.failure? with
  | none => .ok ()
  | some f => .error f

end Ending

inductive Gives : σ → Bytes → Ending → Prop
  | intro {s : σ} {bs : Bytes} {ending : Ending}
      (data : ∀ {n got s'}, 0 < n → read s n = (.ok got, s') →
        got <+: bs ∧ (got = [] → bs = [] ∧ ending = .endOfStream))
      (rest : ∀ {n got s'}, 0 < n → read s n = (.ok got, s') → got ≠ [] →
        Gives s' (bs.drop got.length) ending)
      (blocked : ∀ {n e s'}, 0 < n → read s n = (.error e, s') → e.isBlocked = true →
        bs = [] ∧ ending = .blocked)
      (broken : ∀ {n e s'}, 0 < n → read s n = (.error e, s') → e.isBlocked = false →
        e.isInterrupted = false → bs = [] ∧ ending = .broken e)
      (retry : ∀ {n e s'}, 0 < n → read s n = (.error e, s') → e.isBlocked = false →
        e.isInterrupted = true → Gives s' bs ending) : Gives s bs ending

theorem fill_of_gives {s : σ} {bs : Bytes} {ending : Ending} (h : Gives s bs ending)
    (q : ByteQueue) :
    (fill s q).1 = (if bs.length < q.room then ending.result else .error (.link .bufferFull)) ∧
      (fill s q).2.2.bytes = q.bytes ++ bs.take q.room := by
  -- a queue in which storage was reserved has the room that it had before, and it has some
  have hreserved {q q' : ByteQueue} (hq : q.reserve 1 = .ok q') :
      q'.bytes = q.bytes ∧ 0 < q'.spare.length ∧ q'.room = q.room ∧ 0 < q.room := by
    obtain ⟨hbytes, -, hspare, -⟩ := ByteQueue.reserve_eq_ok hq
    have hroom := ByteQueue.room_reserve hq
    exact ⟨hbytes, hspare, hroom, hroom ▸ Nat.lt_of_lt_of_le hspare q'.length_spare_le_room⟩
  fun_induction fill s q generalizing bs with
  | case1 s q f hq =>
    obtain ⟨hroom, rfl⟩ := ByteQueue.reserve_one_eq_error hq
    rw [hroom, if_neg (Nat.not_lt_zero _), List.take_zero, List.append_nil]
    exact ⟨rfl, rfl⟩
  | case2 s q q' hq s' hr =>
    obtain ⟨hbytes, hspare, -, hroom⟩ := hreserved hq
    cases h with
    | intro data rest blocked broken retry =>
      obtain ⟨rfl, rfl⟩ := (data hspare hr).2 rfl
      rw [List.take_nil, List.append_nil]
      exact ⟨(if_pos hroom).symm, hbytes⟩
  | case3 s q q' hq got s' hr hgot ih =>
    obtain ⟨hbytes, hspare, hroom, -⟩ := hreserved hq
    have hle : got.length ≤ q'.spare.length := length_read_le s _ got (by rw [hr])
    have hless := Nat.le_trans hle q'.length_spare_le_room
    cases h with
    | intro data rest blocked broken retry =>
      obtain ⟨⟨more, rfl⟩, -⟩ := data hspare hr
      have hmore := rest hspare hr hgot
      rw [List.drop_left] at hmore
      obtain ⟨hresult, hfilled⟩ := ih hmore
      rw [ByteQueue.room_push hle, hroom] at hresult hfilled
      rw [hroom] at hless
      refine ⟨hresult.trans ?_, ?_⟩
      · rw [List.length_append]
        congr 1
        exact propext (by omega)
      · rw [hfilled, ByteQueue.bytes_push hle, hbytes, List.take_append,
          List.take_of_length_le hless, List.append_assoc]
  | case4 s q q' hq e s' hr hblocked =>
    obtain ⟨hbytes, hspare, -, hroom⟩ := hreserved hq
    cases h with
    | intro data rest blocked broken retry =>
      obtain ⟨rfl, rfl⟩ := blocked hspare hr hblocked
      rw [List.take_nil, List.append_nil]
      exact ⟨(if_pos hroom).symm, hbytes⟩
  | case5 s q q' hq e s' hr hblocked hinterrupted ih =>
    obtain ⟨hbytes, hspare, hroom, -⟩ := hreserved hq
    cases h with
    | intro data rest blocked broken retry =>
      obtain ⟨hresult, hfilled⟩ := ih (retry hspare hr (by simpa using hblocked) hinterrupted)
      rw [hroom] at hresult hfilled
      exact ⟨hresult, by rw [hfilled, hbytes]⟩
  | case6 s q q' hq e s' hr hblocked hinterrupted =>
    obtain ⟨hbytes, hspare, -, hroom⟩ := hreserved hq
    cases h with
    | intro data rest blocked broken retry =>
      obtain ⟨rfl, rfl⟩ :=
        broken hspare hr (by simpa using hblocked) (by simpa using hinterrupted)
      rw [List.take_nil, List.append_nil]
      exact ⟨(if_pos hroom).symm, hbytes⟩

theorem fill_of_gives_of_lt {s : σ} {bs : Bytes} {ending : Ending} (h : Gives s bs ending)
    {q : ByteQueue} (hroom : q.length + bs.length < q.ceiling) :
    (fill s q).1 = ending.result ∧ (fill s q).2.2.bytes = q.bytes ++ bs := by
  have hfits : bs.length < q.room := by
    unfold ByteQueue.room
    omega
  obtain ⟨hresult, hbytes⟩ := fill_of_gives h q
  rw [if_pos hfits] at hresult
  rw [List.take_of_length_le (Nat.le_of_lt hfits)] at hbytes
  exact ⟨hresult, hbytes⟩

end Transport

theorem Recorded.gives {stream : σ} {bs : Bytes} {ending : Transport.Ending}
    (h : Transport.Gives stream bs ending) {s : Recorded σ} (hs : s.stream = stream) :
    Transport.Gives s bs ending := by
  induction h generalizing s with
  | @intro stream bs ending data rest blocked broken retry ihrest ihretry =>
    subst hs
    exact .intro (fun hn hr => data hn (read_stream hr))
      (fun hn hr hgot => ihrest hn (read_stream hr) hgot rfl)
      (fun hn hr => blocked hn (read_stream hr)) (fun hn hr => broken hn (read_stream hr))
      fun hn hr he hi => ihretry hn (read_stream hr) he hi rfl

namespace StreamError

variable {e : StreamError}

def ending? (e : StreamError) : Option Transport.Ending :=
  if e.isBlocked then some .blocked else if e.isInterrupted then none else some (.broken e)

theorem ending?_of_blocked (h : e.isBlocked = true) : e.ending? = some .blocked := if_pos h

theorem ending?_of_interrupted (h : ¬e.isBlocked = true) (hi : e.isInterrupted = true) :
    e.ending? = none := by
  rw [ending?, if_neg h, if_pos hi]

theorem ending?_of_broken (h : ¬e.isBlocked = true) (hi : ¬e.isInterrupted = true) :
    e.ending? = some (.broken e) := by
  rw [ending?, if_neg h, if_neg hi]

theorem ending?_ne_none (h : e.isBlocked = true ∨ ¬e.isInterrupted = true) : e.ending? ≠ none := by
  by_cases hb : e.isBlocked = true
  · rw [ending?_of_blocked hb]
    exact Option.some_ne_none _
  · rw [ending?_of_broken hb (h.resolve_left hb)]
    exact Option.some_ne_none _

end StreamError

namespace Script

open Transport (Gives)

variable {s : Script} {bs more : Bytes} {ending : Transport.Ending} {events : List ReadEvent}
  {e : StreamError}

theorem gives_blocked (hs : s.reads = []) : Gives s [] .blocked := by
  have hread : ∀ n, Transport.read s n = (.error .blocked, s) := by
    intro n
    change s.read n = _
    rw [read, hs]
  refine .intro (fun _ hr => ?_) (fun _ hr => ?_) (fun _ _ _ => ⟨rfl, rfl⟩) (fun _ hr he => ?_)
    fun _ hr he => ?_
  all_goals cases (hread _).symm.trans hr
  all_goals cases he

theorem gives_endOfStream (hs : s.reads = .endOfStream :: events) : Gives s [] .endOfStream := by
  have hread : ∀ n, Transport.read s n = (.ok [], { s with reads := events }) := by
    intro n
    change s.read n = _
    rw [read, hs]
  refine .intro (fun _ hr => ?_) (fun _ hr hgot => ?_) (fun _ hr => ?_) (fun _ hr => ?_)
    fun _ hr => ?_
  all_goals cases (hread _).symm.trans hr
  · exact ⟨List.prefix_rfl, fun _ => ⟨rfl, rfl⟩⟩
  · exact absurd rfl hgot

theorem gives_data (hbs : bs ≠ []) (hs : s.reads = .data bs :: events)
    (hmore : ∀ s' : Script, s'.reads = events → Gives s' more ending) :
    Gives s (bs ++ more) ending := by
  induction hlength : bs.length using Nat.strongRecOn generalizing s bs with
  | ind length ih =>
    have hread : ∀ n, Transport.read s n = (.ok (bs.take n), { s with
        reads := if n < bs.length then .data (bs.drop n) :: events else events }) := by
      intro n
      change s.read n = _
      rw [read, hs]
    have hpos : 0 < bs.length := List.length_pos_iff.2 hbs
    refine .intro (fun hn hr => ?_) (fun hn hr _ => ?_) (fun _ hr => ?_) (fun _ hr => ?_)
      fun _ hr => ?_
    all_goals cases (hread _).symm.trans hr
    · refine ⟨(List.take_prefix ..).trans (List.prefix_append ..), fun hnone => ?_⟩
      rcases List.take_eq_nil_iff.1 hnone with hzero | hempty
      · omega
      · exact absurd hempty hbs
    · next n _ =>
      rw [List.length_take]
      by_cases hpart : n < bs.length
      · have hrest : 0 < (bs.drop n).length := by
          rw [List.length_drop]
          omega
        rw [Nat.min_eq_left (by omega), List.drop_append_of_le_length (by omega)]
        refine ih (bs.drop n).length ?_ (List.ne_nil_of_length_pos hrest) (if_pos hpart) rfl
        rw [List.length_drop]
        omega
      · rw [Nat.min_eq_right (by omega), List.drop_left]
        exact hmore _ (if_neg hpart)

theorem read_of_fail (hs : s.reads = .fail e :: events) (n : Nat) :
    Transport.read s n = (.error e, { s with reads := events }) := by
  change s.read n = _
  rw [read, hs]

theorem gives_ended (hs : s.reads = .fail e :: events) (he : e.ending? = some ending) :
    Gives s [] ending := by
  refine .intro (fun _ hr => ?_) (fun _ hr => ?_) (fun _ hr hb => ?_) (fun _ hr hb hi => ?_)
    fun _ hr hb hi => ?_
  all_goals cases (read_of_fail hs _).symm.trans hr
  · cases he.symm.trans (StreamError.ending?_of_blocked hb)
    exact ⟨rfl, rfl⟩
  · cases he.symm.trans (StreamError.ending?_of_broken (by simp [hb]) (by simp [hi]))
    exact ⟨rfl, rfl⟩
  · cases he.symm.trans (StreamError.ending?_of_interrupted (by simp [hb]) hi)

theorem gives_retry (hs : s.reads = .fail e :: events) (he : e.ending? = none)
    (hmore : ∀ s' : Script, s'.reads = events → Gives s' bs ending) : Gives s bs ending := by
  refine .intro (fun _ hr => ?_) (fun _ hr => ?_) (fun _ hr hb => ?_) (fun _ hr hb hi => ?_)
    fun _ hr _ _ => ?_
  all_goals cases (read_of_fail hs _).symm.trans hr
  · cases he.symm.trans (StreamError.ending?_of_blocked hb)
  · cases he.symm.trans (StreamError.ending?_of_broken (by simp [hb]) (by simp [hi]))
  · exact hmore _ rfl

theorem gives_interrupted (hs : s.reads = .fail .interrupted :: events)
    (hmore : ∀ s' : Script, s'.reads = events → Gives s' bs ending) : Gives s bs ending :=
  gives_retry hs rfl hmore

end Script

end LineTunnel
