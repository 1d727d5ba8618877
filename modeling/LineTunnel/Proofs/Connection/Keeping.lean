import LineTunnel.Proofs.Connection.Failing
import LineTunnel.Proofs.Connection.Renewal

/-! The failure that closed a connection stays with it until it is renewed, if no credentials were
awaited when it was closed. Otherwise they can still be answered, and an answer that is refused puts
its own failure in the place of the first. -/

namespace LineTunnel

variable {σ : Type}

namespace Socks

def Frame.overlong : String := String.ofList (List.replicate (maxText + 1) 'a')

theorem Frame.maxText_lt_overlong : maxText < overlong.utf8ByteSize := by decide +kernel

theorem Frame.overlong_ne_empty : overlong ≠ "" := by decide +kernel

namespace Exchange

variable {x : Exchange}

theorem submit_empty (h : x.negotiation.awaiting = true) (password : String) :
    x.submit "" password = (.error (.socks .userCancelled), x) := by
  unfold submit
  rw [h]
  rfl

theorem submit_overlong (h : x.negotiation.awaiting = true) :
    x.submit Frame.overlong Frame.overlong = (.error (.socks .credentialsTooLong), x) := by
  unfold submit Frame.credentials
  rw [h, if_neg (by decide), if_neg (by simp [Frame.overlong_ne_empty]),
    if_pos (.inl Frame.maxText_lt_overlong)]
  rfl

end Exchange

end Socks

namespace Connection

/-- This failure is kept, whatever is done to the connection, until it is renewed. -/
def Keeps [Transport σ] (c : Connection σ) (f : Failure) : Prop :=
  ∀ ops : List (Operation σ), (∀ op ∈ ops, op.renews = false) → (c.after ops).failure = some f

structure Settled (c : Connection σ) (f : Failure) : Prop where
  closed : c.isActive = false
  failure : c.failure = some f
  answered : c.awaitingCredentials = false

variable {c : Connection σ} {f : Failure}

theorem exists_submit_ne (h : c.awaitingCredentials = true) (f : Failure) :
    ∃ user password, (c.submit user password).after.failure ≠ some f := by
  obtain ⟨n, hn, hawaiting⟩ := awaitingCredentials_eq_true.1 h
  by_cases hf : f = .socks .userCancelled
  · subst hf
    obtain ⟨watcher, told, -, hsubmit⟩ := submit_of_refused hn
      (Socks.Exchange.submit_overlong (x := ⟨n, c.inbound, c.handshake⟩) hawaiting) nofun
    refine ⟨Socks.Frame.overlong, Socks.Frame.overlong, ?_⟩
    rw [hsubmit]
    exact nofun
  · obtain ⟨watcher, told, -, hsubmit⟩ := submit_of_refused hn
      (Socks.Exchange.submit_empty (x := ⟨n, c.inbound, c.handshake⟩) hawaiting "") nofun
    refine ⟨"", "", ?_⟩
    rw [hsubmit]
    exact fun hsame => hf (Option.some.inj hsame).symm

theorem submit_of_awaiting (h : c.awaitingCredentials = true) (user password : String) :
    (c.submit user password).answer = .ok () ∧
        (c.submit user password).after.failure = c.failure ∨
      ∃ g, (c.submit user password).answer = .error g ∧
        (c.submit user password).after.failure = some g := by
  rcases c.submit_cases user password with
    ⟨n, frame, watcher, handshake, told, -, -, -, -, -, hsubmit⟩ |
    ⟨g, failure, watcher, told, -, ⟨-, hunasked⟩ | ⟨rfl, -⟩, hsubmit⟩
  · rw [hsubmit]
    exact .inl ⟨rfl, rfl⟩
  · exact nomatch hunasked.symm.trans h
  · rw [hsubmit]
    exact .inr ⟨g, rfl, rfl⟩

variable [Transport σ]

namespace Settled

theorem apply (h : c.Settled f) {op : Operation σ} (hop : op.renews = false) :
    (c.apply op).Settled f := by
  cases op with
  | queue message =>
    rcases c.queue_cases message with ⟨watcher, outbound, told, -, -, hqueue⟩ |
      ⟨f, watcher, told, -, hqueue⟩
    all_goals
      rw [Connection.apply, hqueue]
      exact { h with }
  | submit user password =>
    rw [Connection.apply, submit_of_not_awaiting h.answered]
    exact h
  | service ready =>
    rw [Connection.apply, service_of_inactive h.closed]
    exact h
  | next =>
    rcases c.next_cases with hnext | ⟨-, body, rest, -, -, hnext⟩
    all_goals
      rw [Connection.apply, hnext]
      exact { h with }
  | take n =>
    rcases c.take_cases n with htake | ⟨-, htake⟩
    all_goals
      rw [Connection.apply, htake]
      exact { h with }
  | setWatcher listener =>
    obtain ⟨watcher, told, -, hset⟩ := c.setWatcher_eq listener
    rw [Connection.apply, hset]
    exact { h with }
  | setPrompter listener => exact { h with }
  | turn f => exact { h with closed := by simpa [isActive, Connection.apply] using h.closed }
  | _ => cases hop

theorem keeps (h : c.Settled f) : c.Keeps f := by
  intro ops hops
  have hsettled : (c.after ops).Settled f :=
    after_induction_among (P := (Settled · f)) (fun _ _ hop hc => hc.apply hop) h hops
  exact hsettled.failure

end Settled

theorem keeps_iff (hclosed : c.isActive = false) (hf : c.failure = some f) :
    c.Keeps f ↔ c.awaitingCredentials = false := by
  refine ⟨fun h => ?_, fun hanswered => (Settled.mk hclosed hf hanswered).keeps⟩
  cases hawaiting : c.awaitingCredentials with
  | false => rfl
  | true =>
    obtain ⟨user, password, hne⟩ := exists_submit_ne hawaiting f
    exact absurd (h [.submit user password] (by simp [Operation.renews])) hne

theorem closed_of_service {ready : Readiness} (h : (c.service ready).answer.failure = some f) :
    (c.service ready).after.isActive = false ∧ (c.service ready).after.failure = some f := by
  cases hs : c.socket with
  | none =>
    rw [service_closed hs] at h
    cases h
  | some s =>
    cases service_ends hs ready with
    | well hnone => exact nomatch hnone.symm.trans h
    | failed hf hclosed _ hfailure =>
      cases hf.symm.trans h
      exact ⟨hclosed, hfailure⟩

end Connection

end LineTunnel
