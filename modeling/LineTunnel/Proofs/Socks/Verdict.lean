import LineTunnel.Proofs.Socks.Reaction

/-! What a proxy decides on the request for a tunnel: the replies that grant it, and those that
refuse it, each with its cause. A negotiation that awaits the decision takes the reply that is first
among the bytes that have arrived, whatever follows it, and changes nothing as long as there is
none. -/

namespace LineTunnel.Socks

inductive Grants : Stage → Bytes → Prop where
  | v4 {rest : Bytes} : rest.length = 6 → Grants .v4 (0 :: 90 :: rest)
  | v5 {reply : Bytes} : GrantsV5 reply → Grants (.v5 .connect) reply

inductive Refuses : Stage → Bytes → SocksFailure → Prop where
  | versionV4 {version code : UInt8} {rest : Bytes} : version ≠ 0 → rest.length = 6 →
      Refuses .v4 (version :: code :: rest) .badReplyVersion
  | codeV4 {code : UInt8} {rest : Bytes} : code ≠ 90 → rest.length = 6 →
      Refuses .v4 (0 :: code :: rest) (Reply.refusalV4 code)
  | versionV5 {version code reserved kind size : UInt8} : version ≠ 5 →
      Refuses (.v5 .connect) [version, code, reserved, kind, size] .badVersion
  | codeV5 {code reserved kind size : UInt8} : code ≠ 0 →
      Refuses (.v5 .connect) [5, code, reserved, kind, size] (Reply.refusalV5 code)
  | kindV5 {reserved kind size : UInt8} : kind ≠ 1 → kind ≠ 4 → kind ≠ 3 →
      Refuses (.v5 .connect) [5, 0, reserved, kind, size] .badAddressType

/-- The bytes do not begin with a reply that decides. -/
def Undecided (stage : Stage) (bs : Bytes) : Prop :=
  ∀ reply, reply <+: bs → ¬Grants stage reply ∧ ∀ cause, ¬Refuses stage reply cause

section

variable {version code reserved kind size : UInt8} {rest : Bytes} {cause : SocksFailure}

theorem grants_of_judgeV4 (h : Reply.judgeV4 version code = .ok ()) (hrest : rest.length = 6) :
    Grants .v4 (version :: code :: rest) := by
  unfold Reply.judgeV4 at h
  split at h
  · cases h
  · next hversion =>
    split at h
    · cases h
    · next hcode =>
      obtain rfl := Decidable.of_not_not hversion
      obtain rfl := Decidable.of_not_not hcode
      exact .v4 hrest

theorem refuses_of_judgeV4 (h : Reply.judgeV4 version code = .error cause)
    (hrest : rest.length = 6) : Refuses .v4 (version :: code :: rest) cause := by
  unfold Reply.judgeV4 at h
  split at h
  · next hversion =>
    cases h
    exact .versionV4 hversion hrest
  · next hversion =>
    split at h
    · next hcode =>
      cases h
      obtain rfl := Decidable.of_not_not hversion
      exact .codeV4 hcode hrest
    · cases h

theorem refuses_of_lengthV5 (h : Reply.lengthV5 version code kind size = .error cause) :
    Refuses (.v5 .connect) [version, code, reserved, kind, size] cause := by
  unfold Reply.lengthV5 at h
  split at h
  · next hversion =>
    cases h
    exact .versionV5 hversion
  · next hversion =>
    obtain rfl := Decidable.of_not_not hversion
    split at h
    · next hcode =>
      cases h
      exact .codeV5 hcode
    · next hcode =>
      obtain rfl := Decidable.of_not_not hcode
      repeat' split at h
      all_goals cases h
      exact .kindV5 ‹_› ‹_› ‹_›

end

namespace Negotiation

variable {n : Negotiation} {reply bs : Bytes}

theorem react_of_grants (h : Grants n.stage reply) (canPrompt : Bool) :
    n.react canPrompt reply = .grant reply.length := by
  unfold react
  generalize n.stage = stage at h
  cases h with
  | @v4 rest hrest =>
    have hlength : (0 :: 90 :: rest : Bytes).length = Reply.lengthV4 := by
      rw [List.length_cons, List.length_cons, hrest]
      rfl
    unfold reactV4
    dsimp only
    rw [hlength, if_neg (Nat.lt_irrefl _)]
    rfl
  | v5 hreply =>
    obtain ⟨reserved, kind, size, rest, rfl, hlength⟩ := hreply
    have hdecided : Reply.lengthV5 5 0 kind size =
        .ok (5 :: 0 :: reserved :: kind :: size :: rest : Bytes).length := by
      rcases hlength with ⟨rfl, hlength⟩ | ⟨rfl, hlength⟩ | ⟨rfl, hlength⟩ <;> rw [hlength] <;> rfl
    unfold reactConnect
    dsimp only
    rw [hdecided]
    exact if_neg (Nat.lt_irrefl _)

theorem react_of_refuses {cause : SocksFailure} (h : Refuses n.stage reply cause)
    (canPrompt : Bool) : ∃ taken, n.react canPrompt reply = .refuse taken cause := by
  unfold react
  generalize n.stage = stage at h
  cases h with
  | versionV4 hversion hrest =>
    refine ⟨Reply.lengthV4, ?_⟩
    simp [reactV4, Reply.judgeV4, Reply.lengthV4, hversion, hrest]
  | codeV4 hcode hrest =>
    refine ⟨Reply.lengthV4, ?_⟩
    simp [reactV4, Reply.judgeV4, Reply.lengthV4, hcode, hrest]
  | versionV5 hversion => exact ⟨0, by simp [reactConnect, Reply.lengthV5, hversion]⟩
  | codeV5 hcode => exact ⟨0, by simp [reactConnect, Reply.lengthV5, hcode]⟩
  | kindV5 hone hfour hthree =>
    exact ⟨0, by simp [reactConnect, Reply.lengthV5, hone, hfour, hthree]⟩

theorem react_of_undecided (h : Undecided n.stage bs) (hasked : n.stage.hasAsked = true)
    (canPrompt : Bool) : n.react canPrompt bs = .wait := by
  unfold react
  generalize n.stage = stage at h hasked
  -- whatever would be judged begins the bytes, and decides
  cases stage with
  | v4 =>
    unfold reactV4
    dsimp only
    split
    · next version code rest =>
      split
      · rfl
      · next hlong =>
        have hreply : (rest.take 6).length = 6 := by
          simp only [List.length_cons, Reply.lengthV4] at hlong
          rw [List.length_take]
          omega
        obtain ⟨hgrants, hrefuses⟩ := h (version :: code :: rest.take 6)
          (List.take_prefix 8 (version :: code :: rest))
        split
        · next cause hjudge => exact absurd (refuses_of_judgeV4 hjudge hreply) (hrefuses cause)
        · next hjudge => exact absurd (grants_of_judgeV4 hjudge hreply) hgrants
    · rfl
  | v5 stage =>
    cases stage with
    | methods => cases hasked
    | userPassword => cases hasked
    | connect =>
      unfold reactConnect
      dsimp only
      split
      · next version code reserved kind size rest =>
        split
        · next cause hlength =>
          have hprefix := List.take_prefix 5 (version :: code :: reserved :: kind :: size :: rest)
          exact absurd (refuses_of_lengthV5 hlength) ((h _ hprefix).2 cause)
        · next taken hlength =>
          split
          · rfl
          · next hlong =>
            obtain ⟨rfl, rfl, htaken⟩ := Exchange.lengthV5_ok hlength
            have hreply := Exchange.grantsV5_take reserved htaken (by simpa using hlong)
            exact absurd (.v5 hreply) (h _ (List.take_prefix ..)).1
      · rfl

end Negotiation

namespace Exchange

variable {x : Exchange}

theorem advance_of_ne_request {canPrompt : Bool}
    (h : x.negotiation.react canPrompt x.inbound.bytes ≠ .request) :
    x.advance canPrompt = x.follow (x.negotiation.react canPrompt x.inbound.bytes) := by
  rw [advance, step_eq_follow]
  cases hreact : x.negotiation.react canPrompt x.inbound.bytes with
  | request => exact absurd hreact h
  | wait => exact if_neg fun hmore => Nat.lt_irrefl _ hmore.2
  | refuse taken cause => rfl
  | prompt => rfl
  | grant taken => rfl

theorem advance_of_grants {reply rest : Bytes} (hbytes : x.inbound.bytes = reply ++ rest)
    (h : Grants x.negotiation.stage reply) (canPrompt : Bool) :
    x.advance canPrompt = (.ok .connected, x.skip reply.length) := by
  have hreply := Negotiation.react_of_grants h canPrompt
  have hreact : x.negotiation.react canPrompt x.inbound.bytes = .grant reply.length := by
    rw [hbytes, Negotiation.react_append (by simp [hreply]), hreply]
  rw [advance_of_ne_request (by simp [hreact]), hreact]
  rfl

theorem advance_of_refuses {reply rest : Bytes} {cause : SocksFailure}
    (hbytes : x.inbound.bytes = reply ++ rest) (h : Refuses x.negotiation.stage reply cause)
    (canPrompt : Bool) : ∃ taken, x.advance canPrompt = (.error (.socks cause), x.skip taken) := by
  obtain ⟨taken, hreply⟩ := Negotiation.react_of_refuses h canPrompt
  have hreact : x.negotiation.react canPrompt x.inbound.bytes = .refuse taken cause := by
    rw [hbytes, Negotiation.react_append (by simp [hreply]), hreply]
  refine ⟨taken, ?_⟩
  rw [advance_of_ne_request (by simp [hreact]), hreact]
  rfl

theorem advance_of_undecided (h : Undecided x.negotiation.stage x.inbound.bytes)
    (hasked : x.negotiation.stage.hasAsked = true) (canPrompt : Bool) :
    x.advance canPrompt = (.ok .needMore, x) := by
  have hreact := Negotiation.react_of_undecided h hasked canPrompt
  rw [advance_of_ne_request (by simp [hreact]), hreact]
  rfl

end Exchange

end LineTunnel.Socks
