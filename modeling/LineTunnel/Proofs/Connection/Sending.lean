import LineTunnel.Proofs.Connection.Change

/-! What a connected connection sends: its messages as they were queued, each once and in order. A
failure leaves something unsent. -/

namespace LineTunnel.Run

variable {σ : Type} {f : Framing} {before : Bytes} {r r' : Run σ} {m : Move σ} {events : Log}
  {taken requests messages replies : Bytes}

/-- A connected run in which the socket has accepted, behind some first bytes, all messages that do
not wait any more. -/
structure Emits (f : Framing) (before : Bytes) (r : Run σ) : Prop where
  tied : r.Tied
  framing : r.connection.framing = f
  connected : r.connection.phase = .connected
  sent : r.socket.accepted ++ r.connection.outbound.bytes = before ++ f.stream r.log.accepted

theorem Emits.change (h : Emits f before r)
    (hc : Change m r r' events taken requests messages replies) : Emits f before r' := by
  obtain ⟨result, -, hleads⟩ := hc.leads
  have hnone : requests = [] := by
    rcases hc.requests with hnone | ⟨n, hn⟩
    · exact hnone
    · exact nomatch hn.symm.trans h.connected
  refine ⟨hc.tied, hc.framing.trans h.framing, (hleads.connected_of h.connected).2, ?_⟩
  have hout := hc.outbound
  rw [h.framing] at hout
  calc r'.socket.accepted ++ r'.connection.outbound.bytes
    _ = r.socket.accepted ++ (messages ++ r'.connection.outbound.bytes) := by
      rw [hc.carried.accepted, hnone, List.nil_append, List.append_assoc]
    _ = r.socket.accepted ++ r.connection.outbound.bytes ++ f.stream events.accepted := by
      rw [← hout, List.append_assoc]
    _ = before ++ f.stream r'.log.accepted := by
      rw [h.sent, hc.log, Log.accepted_append, f.stream_append, List.append_assoc]

def Unharmed (failedWrites : Nat) (r : Run σ) : Prop :=
  r.socket.failedWrites = failedWrites ∨
    r.connection.socket = none ∧ r.connection.outbound.bytes ≠ []

theorem Emits.unharmed_change {n : Nat} (h : Emits f before r)
    (hu : Unharmed n r) (hc : Change m r r' events taken requests messages replies) :
    Unharmed n r' := by
  rcases hu with hsame | ⟨hclosed, hleft⟩
  · rcases hc.failedWrites with hstill | ⟨hclosed, hleft⟩
    · exact .inl (hstill.trans hsame)
    · exact .inr ⟨hclosed, hleft h.connected⟩
  · -- without a socket the queue only grows
    have hnone : messages = [] := by
      rcases hc.messages with hnone | ⟨-, -, hopen⟩
      · exact hnone
      · rw [hclosed] at hopen
        cases hopen
    refine .inr ⟨(hc.closed hclosed).1, ?_⟩
    have hout := hc.outbound
    rw [hnone, List.nil_append] at hout
    rw [← hout]
    exact List.append_ne_nil_of_left_ne_nil hleft _

variable [Transport σ]

theorem Emits.run (h : Emits f before r) (ms : List (Move σ)) : Emits f before (r.run ms) :=
  run_induction (fun _ h => h.tied) (fun _ h hc => h.change hc) h

theorem Emits.unharmed_run {n : Nat} (h : Emits f before r) (hu : Unharmed n r)
    (ms : List (Move σ)) : Unharmed n (r.run ms) := by
  have hboth : Emits f before (r.run ms) ∧ Unharmed n (r.run ms) :=
    run_induction (P := fun r => Emits f before r ∧ Unharmed n r) (fun _ h => h.1.tied)
      (fun _ h hc => ⟨h.1.change hc, h.1.unharmed_change h.2 hc⟩) ⟨h, hu⟩
  exact hboth.2

theorem accepted_run {ms : List (Move σ)} (hr : r.Tied)
    (hms : ∀ m ∈ ms, ∀ message, m ≠ .queue message) :
    (r.run ms).log.accepted = r.log.accepted := by
  have hboth : (r.run ms).Tied ∧ (r.run ms).log.accepted = r.log.accepted := by
    refine run_induction (P := fun r' => r'.Tied ∧ r'.log.accepted = r.log.accepted)
      (fun _ h => h.1) ?_ ⟨hr, rfl⟩
    intro r₁ r₂ m events taken requests messages replies hm h hc
    refine ⟨hc.tied, ?_⟩
    rw [hc.log, Log.accepted_append, h.2]
    rcases hc.queued with hnone | ⟨message, hqueue⟩
    · rw [hnone, List.append_nil]
    · exact absurd hqueue (hms m hm message)
  exact hboth.2

end LineTunnel.Run
