import LineTunnel.Proofs.Transport.Giving

/-! A stream that holds some bytes and no more: however they are asked for, they come in order, in
parts of any size and with interruptions, and then the stream would have to wait. A queue with room
is filled with exactly these bytes. -/

namespace LineTunnel

variable {σ : Type} [Transport σ]

namespace Transport

inductive Holds : σ → Bytes → Prop
  | intro {s : σ} {bs : Bytes}
      (data : ∀ {n got s'}, 0 < n → read s n = (.ok got, s') → got ≠ [] ∧ got <+: bs)
      (rest : ∀ {n got s'}, 0 < n → read s n = (.ok got, s') → Holds s' (bs.drop got.length))
      (error : ∀ {n e s'}, 0 < n → read s n = (.error e, s') →
        e.isBlocked = true ∧ bs = [] ∨ e.isBlocked = false ∧ e.isInterrupted = true)
      (retry : ∀ {n e s'}, 0 < n → read s n = (.error e, s') → e.isBlocked = false →
        Holds s' bs) : Holds s bs

theorem Holds.gives {s : σ} {bs : Bytes} (h : Holds s bs) : Gives s bs .blocked := by
  induction h with
  | @intro s bs data rest error retry ihrest ihretry =>
    refine .intro (fun hn hr => ?_) (fun hn hr _ => ihrest hn hr) (fun hn hr he => ?_)
      (fun hn hr he hi => ?_) fun hn hr he _ => ihretry hn hr he
    · obtain ⟨hgot, hbegins⟩ := data hn hr
      exact ⟨hbegins, fun hnone => absurd hnone hgot⟩
    · rcases error hn hr with ⟨-, hempty⟩ | ⟨hnot, -⟩
      · exact ⟨hempty, rfl⟩
      · exact nomatch hnot.symm.trans he
    · rcases error hn hr with ⟨hyes, -⟩ | ⟨-, hyes⟩
      · exact nomatch hyes.symm.trans he
      · exact nomatch hyes.symm.trans hi

theorem Gives.holds {s : σ} {bs : Bytes} {ending : Ending} (h : Gives s bs ending)
    (hending : ending = .blocked) : Holds s bs := by
  induction h with
  | @intro s bs ending data rest blocked broken retry ihrest ihretry =>
    subst hending
    have hgot {n : Nat} {got : Bytes} {s' : σ} (hn : 0 < n) (hr : read s n = (.ok got, s')) :
        got ≠ [] := fun hnone => nomatch ((data hn hr).2 hnone).2
    have hinterrupted {n : Nat} {e : StreamError} {s' : σ} (hn : 0 < n)
        (hr : read s n = (.error e, s')) (he : e.isBlocked = false) : e.isInterrupted = true := by
      cases hi : e.isInterrupted with
      | true => rfl
      | false => exact nomatch (broken hn hr he hi).2
    refine .intro (fun hn hr => ⟨hgot hn hr, (data hn hr).1⟩)
      (fun hn hr => ihrest hn hr (hgot hn hr) rfl) (fun {n e s'} hn hr => ?_)
      fun hn hr he => ihretry hn hr he (hinterrupted hn hr he) rfl
    cases he : e.isBlocked with
    | true => exact .inl ⟨rfl, (blocked hn hr he).1⟩
    | false => exact .inr ⟨rfl, hinterrupted hn hr he⟩

theorem fill_of_holds {s : σ} {bs : Bytes} {q : ByteQueue} (h : Holds s bs)
    (hroom : q.length + bs.length < q.ceiling) :
    (fill s q).1 = .ok () ∧ (fill s q).2.2.bytes = q.bytes ++ bs :=
  fill_of_gives_of_lt h.gives hroom

end Transport

theorem Recorded.holds {stream : σ} {bs : Bytes} (h : Transport.Holds stream bs)
    {s : Recorded σ} (hs : s.stream = stream) : Transport.Holds s bs :=
  (Recorded.gives h.gives hs).holds rfl

namespace Script

def saying (bs : Bytes) (s : Script) : Script := { s with reads := [.data bs] }

theorem holds_saying {s : Script} {bs : Bytes} (hbs : bs ≠ []) :
    Transport.Holds (s.saying bs) bs := by
  have hgives : Transport.Gives (s.saying bs) (bs ++ []) .blocked :=
    gives_data hbs rfl fun _ => gives_blocked
  rw [List.append_nil] at hgives
  exact hgives.holds rfl

end Script

end LineTunnel
