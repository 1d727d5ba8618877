import LineTunnel.Proofs.Transport.Carried
import LineTunnel.Proofs.Transport.Endings

/-! A queue that is drained into a script. The bytes that the script takes before it ends decide
all: if the queue holds no more, it is drained, and otherwise the drain ends as the script does.
Nothing is sent twice and nothing is left out, in one call and in a sequence of calls between which
the queue is filled again. -/

namespace LineTunnel

open Transport (Ending send drain)

namespace Script

variable {s : Script} {q : ByteQueue} {bs : Bytes}

theorem allowance_cons {event : WriteEvent} {events : List WriteEvent}
    (he : event.ending? = none) : allowance (event :: events) = event.size + allowance events := by
  rw [allowance, beforeEnd_cons he]
  rfl

theorem writeEnding_cons {event : WriteEvent} {events : List WriteEvent}
    (he : event.ending? = none) : writeEnding (event :: events) = writeEnding events :=
  endingOf_cons he

theorem allowance_of_end {event : WriteEvent} {events : List WriteEvent} {ending : Ending}
    (he : event.ending? = some ending) : allowance (event :: events) = 0 := by
  rw [allowance, beforeEnd_of_end he]
  rfl

theorem send_eq (s : Script) (bs : Bytes) :
    (send s bs).2.2 = min (allowance s.writes) bs.length ∧
      (send s bs).1 =
        if bs.length ≤ allowance s.writes then .ok () else (writeEnding s.writes).result := by
  have hended {s : Script} {bs : Bytes} {event : WriteEvent} {events : List WriteEvent}
      {ending : Ending} (hbs : bs ≠ []) (hwrites : s.writes = event :: events)
      (he : event.ending? = some ending) :
      0 = min (allowance s.writes) bs.length ∧ ending.result =
        if bs.length ≤ allowance s.writes then .ok () else (writeEnding s.writes).result := by
    have hpos := List.length_pos_iff.2 hbs
    rw [hwrites, allowance_of_end he, writeEnding, endingOf_of_end he, if_neg (by omega)]
    exact ⟨(Nat.zero_min _).symm, rfl⟩
  fun_induction send s bs with
  | case1 s => exact ⟨(Nat.min_zero _).symm, (if_pos (Nat.zero_le _)).symm⟩
  | case2 s bs hbs s' hw =>
    have hpos := List.length_pos_iff.2 hbs
    rcases write_cases hw with ⟨-, hnone, -⟩ | ⟨n, hwrites, -, hn⟩ | ⟨e, -, -, he⟩
    · cases hnone
    · have hzero : 0 = min n bs.length := Except.ok.inj hn
      exact hended hbs hwrites (if_pos (by omega))
    · cases he
  | case3 s bs hbs n s' hw result s'' m hrest ih =>
    rcases write_cases hw with ⟨-, hnone, -⟩ | ⟨k, hwrites, -, hk⟩ | ⟨e, -, -, he⟩
    · cases hnone
    · have htaken : n + 1 = min k bs.length := Except.ok.inj hk
      have hgoes : (WriteEvent.accept k).ending? = none := if_neg (by omega)
      rw [hrest, List.length_drop] at ih
      rw [hwrites, allowance_cons hgoes, writeEnding_cons hgoes]
      obtain ⟨hm, hresult⟩ := ih
      dsimp only [WriteEvent.size] at hm hresult ⊢
      refine ⟨by omega, hresult.trans ?_⟩
      congr 1
      exact propext (by omega)
    · cases he
  | case4 s bs hbs e s' hw hblocked =>
    have hpos := List.length_pos_iff.2 hbs
    rcases write_cases hw with ⟨hwrites, -, -⟩ | ⟨n, -, -, hn⟩ | ⟨e', hwrites, -, he⟩
    · rw [hwrites]
      refine ⟨(Nat.zero_min _).symm, ?_⟩
      rw [ite_eq_right_iff.2]
      · rfl
      · exact fun _ => rfl
    · cases hn
    · cases he
      exact hended hbs hwrites (StreamError.ending?_of_blocked hblocked)
  | case5 s bs hbs e s' hw hblocked hinterrupted ih =>
    have hretry : (WriteEvent.fail e).ending? = none :=
      StreamError.ending?_of_interrupted hblocked hinterrupted
    rcases write_cases hw with ⟨-, hnone, -⟩ | ⟨n, -, -, hn⟩ | ⟨e', hwrites, -, he⟩
    · cases hnone
      exact absurd rfl hblocked
    · cases hn
    · cases he
      rw [hwrites, allowance_cons hretry, writeEnding_cons hretry, WriteEvent.size, Nat.zero_add]
      exact ih
  | case6 s bs hbs e s' hw hblocked hinterrupted =>
    rcases write_cases hw with ⟨-, hnone, -⟩ | ⟨n, -, -, hn⟩ | ⟨e', hwrites, -, he⟩
    · cases hnone
      exact absurd rfl hblocked
    · cases hn
    · cases he
      exact hended hbs hwrites (StreamError.ending?_of_broken hblocked hinterrupted)

theorem send_withoutRetries (s : Script) (bs : Bytes) :
    send s.withoutRetries bs =
      ((send s bs).1, (send s bs).2.1.withoutRetries, (send s bs).2.2) := by
  fun_induction send s bs with
  | case1 s => exact Transport.send_nil
  | case2 s bs hbs s' hw =>
    exact Transport.send_of_none hbs (write_withoutRetries hw fun _ he => by cases he)
  | case3 s bs hbs n s' hw result s'' m hrest ih =>
    rw [Transport.send_of_some hbs (write_withoutRetries hw fun _ he => by cases he), ih, hrest]
  | case4 s bs hbs e s' hw hblocked =>
    have hwrite := write_withoutRetries hw fun _ he =>
      Except.error.inj he ▸ StreamError.ending?_ne_none (.inl hblocked)
    rw [Transport.send_of_failed_write hbs hwrite, if_pos hblocked]
  | case5 s bs hbs e s' hw hblocked hinterrupted ih =>
    rw [withoutRetries_of_write hw (StreamError.ending?_of_interrupted hblocked hinterrupted), ih]
  | case6 s bs hbs e s' hw hblocked hinterrupted =>
    have hwrite := write_withoutRetries hw fun _ he =>
      Except.error.inj he ▸ StreamError.ending?_ne_none (.inr hinterrupted)
    rw [Transport.send_of_failed_write hbs hwrite, if_neg hblocked, if_neg hinterrupted]

/-- What comes of draining a queue into a script. -/
structure Drains (s : Script) (q : ByteQueue)
    (r : Except Failure Unit × Recorded Script × ByteQueue) : Prop where
  attempts_le : r.2.1.offers.length ≤ s.size + q.length
  offersSome : r.2.1.OffersSome
  bytes_eq : q.bytes = r.2.1.accepted ++ r.2.2.bytes
  accepted_eq : r.2.1.accepted = q.bytes.take (allowance s.writes)
  ended : r.2.2.bytes ≠ [] → r.1 = (writeEnding s.writes).result
  ok_iff : r.1 = .ok () ↔ r.2.2.bytes = [] ∨ writeEnding s.writes = .blocked
  capacity_eq : r.2.2.capacity = q.capacity
  withoutRetries_eq : drain s.withoutRetries q = (r.1, r.2.1.stream.withoutRetries, r.2.2)

theorem drains (s : Script) (q : ByteQueue) :
    s.Drains q (drain ({ stream := s } : Recorded Script) q) := by
  obtain ⟨hcount, hresult⟩ := send_eq s q.bytes
  have hstream := Recorded.send_stream { stream := s } q.bytes
  rw [hstream] at hcount hresult
  have hleft : (drain ({ stream := s } : Recorded Script) q).2.2.bytes =
      q.bytes.drop (allowance s.writes) := by
    change q.bytes.drop _ = _
    rw [hcount, ← List.drop_eq_drop_min]
  have haccepted : (drain ({ stream := s } : Recorded Script) q).2.1.accepted =
      q.bytes.take (allowance s.writes) := by
    refine (Recorded.carried_send { stream := s } q.bytes).accepted.trans ?_
    rw [hcount, ← List.take_eq_take_min]
    rfl
  have hdrained : q.bytes.drop (allowance s.writes) = [] ↔ q.bytes.length ≤ allowance s.writes :=
    List.drop_eq_nil_iff
  refine {
    attempts_le := ?attempts
    offersSome := Recorded.OffersSome.send (s := { stream := s }) nofun q.bytes
    bytes_eq := ?bytes
    accepted_eq := haccepted
    ended := ?ended
    ok_iff := ?ok
    capacity_eq := ByteQueue.capacity_discard ..
    withoutRetries_eq := ?retries }
  case attempts =>
    have hattempts := Recorded.length_offers_send_le { stream := s } q.bytes
    rw [List.length_nil, Nat.zero_add] at hattempts
    exact hattempts
  case bytes => rw [haccepted, hleft, List.take_append_drop]
  case ended =>
    intro hsome
    rw [hleft, Ne, hdrained] at hsome
    exact hresult.trans (if_neg hsome)
  case ok =>
    rw [hleft, hdrained, ← Ending.result_eq_ok]
    change (send ({ stream := s } : Recorded Script) q.bytes).1 = .ok () ↔ _
    rw [hresult]
    by_cases hall : q.bytes.length ≤ allowance s.writes
    · rw [if_pos hall]
      exact ⟨fun _ => .inl hall, fun _ => rfl⟩
    · rw [if_neg hall]
      exact ⟨.inr, Or.rec (absurd · hall) id⟩
  case retries =>
    unfold drain
    rw [send_withoutRetries, hstream]

end Script

/-- A queue, the stream that it is drained into, and all that was ever put into the queue. -/
structure Outlet (σ : Type) where
  stream : Recorded σ
  queue : ByteQueue
  appended : Bytes

namespace Outlet

inductive Turn where
  | append (bs : Bytes)
  | drain

variable {σ : Type} [Transport σ]

def turn (x : Outlet σ) : Turn → Outlet σ
  | .append bs =>
    match x.queue.append bs with
    | .ok queue => { x with queue, appended := x.appended ++ bs }
    | .error _ => x
  | .drain =>
    let (_, stream, queue) := Transport.drain x.stream x.queue
    { x with stream, queue }

def run (x : Outlet σ) (turns : List Turn) : Outlet σ := turns.foldl turn x

def Conserves (x : Outlet σ) : Prop := x.appended = x.stream.accepted ++ x.queue.bytes

theorem Conserves.turn {x : Outlet σ} (h : x.Conserves) (t : Turn) : (x.turn t).Conserves := by
  unfold Conserves at h ⊢
  cases t with
  | append bs =>
    unfold Outlet.turn
    dsimp only
    split
    · next queue hqueue => rw [ByteQueue.bytes_append hqueue, h, List.append_assoc]
    · exact h
  | drain =>
    obtain ⟨bs, hcarried, hbytes⟩ := Recorded.carried_drain x.stream x.queue
    change x.appended = (Transport.drain x.stream x.queue).2.1.accepted ++ _
    rw [hcarried.accepted, h, hbytes, List.append_assoc]
    rfl

theorem Conserves.run {x : Outlet σ} (h : x.Conserves) (turns : List Turn) :
    (x.run turns).Conserves := by
  induction turns generalizing x with
  | nil => exact h
  | cons t turns ih => exact ih (h.turn t)

end Outlet

/-- One call drains what the script takes, and any sequence of appends and drains sends what was
put in. -/
theorem Script.drains_script (s : Script) (q : ByteQueue) :
    s.Drains q (drain ({ stream := s } : Recorded Script) q) ∧
      ∀ turns, (Outlet.run ⟨{ stream := s }, q, q.bytes⟩ turns).Conserves :=
  ⟨drains s q, fun turns => Outlet.Conserves.run (x := ⟨{ stream := s }, q, q.bytes⟩) rfl turns⟩

end LineTunnel
