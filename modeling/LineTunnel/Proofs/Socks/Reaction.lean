import LineTunnel.Proofs.Socks.Conversation

/-! What a negotiation makes of the bytes that have arrived. It reacts to the bytes of one reply,
and what follows them does not change the reaction. So the pieces in which a stream arrives do not
matter: a negotiation that has come somewhere with a beginning of the stream goes on from there
with the rest to where all of it would have led at once. -/

namespace LineTunnel.Socks

inductive Reaction where
  | wait
  | refuse (taken : Nat) (cause : SocksFailure)
  | prompt
  | request
  | grant (taken : Nat)
  deriving DecidableEq, Repr

def Reaction.taken : Reaction → Nat
  | wait => 0
  | refuse taken _ => taken
  | prompt => 2
  | request => 2
  | grant taken => taken

/-- Where a negotiation stands after some bytes: it waits for more, it has asked for credentials,
or it has ended. The bytes that it has not taken are left. -/
inductive Standing where
  | waiting (n : Negotiation) (rest : Bytes)
  | prompting (rest : Bytes)
  | granted (rest : Bytes)
  | refused (f : Failure)
  deriving DecidableEq, Repr

def Frame.maxMethods : Nat := 4

def Frame.maxConnect : Nat := maxText + 7

theorem Frame.length_connectByName {host : String} {port : UInt16} {frame : Bytes}
    (h : connectByName host port = .ok frame) : frame.length ≤ maxConnect := by
  obtain ⟨hhost, rfl⟩ := connectByName_eq_ok_iff.1 h
  simp only [lengthPrefixed, maxConnect, List.length_append, List.length_cons, List.length_nil,
    length_utf8, length_bigEndian]
  omega

namespace Negotiation

def asking (n : Negotiation) : Negotiation := { n with stage := .v5 .connect }

def reactRequest (n : Negotiation) : Reaction :=
  if Frame.maxText < n.host.utf8ByteSize then .refuse 2 .hostnameTooLong else .request

def reactV4 (bs : Bytes) : Reaction :=
  match bs with
  | version :: code :: _ =>
    if bs.length < Reply.lengthV4 then .wait
    else
      match Reply.judgeV4 version code with
      | .error cause => .refuse Reply.lengthV4 cause
      | .ok () => .grant Reply.lengthV4
  | _ => .wait

def reactMethods (canPrompt : Bool) (n : Negotiation) (bs : Bytes) : Reaction :=
  match bs with
  | version :: method :: _ =>
    if version ≠ 5 then .refuse 2 .badVersion
    else if method = Frame.noAuth then n.reactRequest
    else if method = Frame.userPassword ∧ canPrompt then .prompt
    else .refuse 2 .noAcceptableMethods
  | _ => .wait

def reactUserPassword (n : Negotiation) (bs : Bytes) : Reaction :=
  match bs with
  | _ :: code :: _ => if code ≠ 0 then .refuse 2 .authFailed else n.reactRequest
  | _ => .wait

def reactConnect (bs : Bytes) : Reaction :=
  match bs with
  | version :: code :: _ :: kind :: size :: _ =>
    match Reply.lengthV5 version code kind size with
    | .error cause => .refuse 0 cause
    | .ok taken => if bs.length < taken then .wait else .grant taken
  | _ => .wait

def react (canPrompt : Bool) (n : Negotiation) (bs : Bytes) : Reaction :=
  match n.stage with
  | .v4 => reactV4 bs
  | .v5 .methods => n.reactMethods canPrompt bs
  | .v5 .userPassword => n.reactUserPassword bs
  | .v5 .connect => reactConnect bs

theorem reactRequest_cases (n : Negotiation) :
    n.reactRequest = .refuse 2 .hostnameTooLong ∧ Frame.maxText < n.host.utf8ByteSize ∨
      n.reactRequest = .request ∧ n.host.utf8ByteSize ≤ Frame.maxText := by
  unfold reactRequest
  split
  · next h => exact .inl ⟨rfl, h⟩
  · next h => exact .inr ⟨rfl, Nat.le_of_not_lt h⟩

theorem taken_reactRequest (n : Negotiation) : n.reactRequest.taken = 2 := by
  rcases n.reactRequest_cases with ⟨h, -⟩ | ⟨h, -⟩ <;> rw [h] <;> rfl

theorem reactRequest_ne_prompt (n : Negotiation) : n.reactRequest ≠ .prompt := by
  rcases n.reactRequest_cases with ⟨h, -⟩ | ⟨h, -⟩ <;> rw [h] <;> exact nofun

theorem taken_react_le (canPrompt : Bool) (n : Negotiation) (bs : Bytes) :
    (n.react canPrompt bs).taken ≤ bs.length := by
  unfold react
  split
  · unfold reactV4
    split
    · split
      · exact Nat.zero_le _
      · split <;> exact Nat.le_of_not_lt ‹_›
    · exact Nat.zero_le _
  · unfold reactMethods
    split
    · next version method rest =>
      have htwo : 2 ≤ (version :: method :: rest).length := Nat.le_add_left ..
      split
      · exact htwo
      split
      · rwa [taken_reactRequest]
      split <;> exact htwo
    · exact Nat.zero_le _
  · unfold reactUserPassword
    split
    · next first code rest =>
      have htwo : 2 ≤ (first :: code :: rest).length := Nat.le_add_left ..
      split
      · exact htwo
      · rwa [taken_reactRequest]
    · exact Nat.zero_le _
  · unfold reactConnect
    split
    · split
      · exact Nat.zero_le _
      · split
        · exact Nat.zero_le _
        · exact Nat.le_of_not_lt ‹_›
    · exact Nat.zero_le _

theorem react_append {canPrompt : Bool} {n : Negotiation} {bs : Bytes}
    (h : n.react canPrompt bs ≠ .wait) (more : Bytes) :
    n.react canPrompt (bs ++ more) = n.react canPrompt bs := by
  have hlength : ∀ {k}, ¬bs.length < k → ¬(bs ++ more).length < k := by
    intro k hk
    rw [List.length_append]
    omega
  unfold react at h ⊢
  split at h
  · unfold reactV4 at h ⊢
    split at h
    · split at h
      · exact absurd rfl h
      · next hlong =>
        have hmore := hlength hlong
        simp only [List.cons_append] at hmore ⊢
        rw [if_neg hlong, if_neg hmore]
    · exact absurd rfl h
  · unfold reactMethods at h ⊢
    split at h
    · rfl
    · exact absurd rfl h
  · unfold reactUserPassword at h ⊢
    split at h
    · rfl
    · exact absurd rfl h
  · unfold reactConnect at h ⊢
    split at h
    · simp only [List.cons_append]
      split at h
      · rfl
      · split at h
        · exact absurd rfl h
        · next hlong =>
          have hmore := hlength hlong
          simp only [List.cons_append] at hmore
          rw [if_neg hlong, if_neg hmore]
    · exact absurd rfl h

theorem react_nil (canPrompt : Bool) (n : Negotiation) : n.react canPrompt [] = .wait := by
  unfold react
  split <;> rfl

theorem of_react_eq_prompt {canPrompt : Bool} {n : Negotiation} {bs : Bytes}
    (h : n.react canPrompt bs = .prompt) : n.stage = .v5 .methods ∧ canPrompt = true := by
  unfold react at h
  split at h
  · unfold reactV4 at h
    repeat' split at h
    all_goals cases h
  · next hstage =>
    refine ⟨hstage, ?_⟩
    unfold reactMethods at h
    split at h
    · split at h
      · cases h
      split at h
      · exact absurd h n.reactRequest_ne_prompt
      split at h
      · next hmethod => exact hmethod.2
      · cases h
    · cases h
  · unfold reactUserPassword at h
    repeat' split at h
    all_goals first | exact absurd h n.reactRequest_ne_prompt | cases h
  · unfold reactConnect at h
    repeat' split at h
    all_goals cases h

theorem of_react_eq_request {canPrompt : Bool} {n : Negotiation} {bs : Bytes}
    (h : n.react canPrompt bs = .request) :
    n.stage.hasAsked = false ∧ n.host.utf8ByteSize ≤ Frame.maxText := by
  have hhost : n.reactRequest = .request → n.host.utf8ByteSize ≤ Frame.maxText := by
    intro hrequest
    rcases n.reactRequest_cases with ⟨hrefuse, -⟩ | ⟨-, hle⟩
    · exact nomatch hrefuse.symm.trans hrequest
    · exact hle
  unfold react at h
  split at h
  · unfold reactV4 at h
    repeat' split at h
    all_goals cases h
  · next hstage =>
    refine ⟨by rw [hstage]; rfl, ?_⟩
    unfold reactMethods at h
    repeat' split at h
    all_goals first | exact hhost h | cases h
  · next hstage =>
    refine ⟨by rw [hstage]; rfl, ?_⟩
    unfold reactUserPassword at h
    repeat' split at h
    all_goals first | exact hhost h | cases h
  · unfold reactConnect at h
    repeat' split at h
    all_goals cases h

theorem two_le_of_react_eq_request {canPrompt : Bool} {n : Negotiation} {bs : Bytes}
    (h : n.react canPrompt bs = .request) : 2 ≤ bs.length := by
  have hle := n.taken_react_le canPrompt bs
  rwa [h] at hle

def hear (canPrompt : Bool) (n : Negotiation) (bs : Bytes) : Standing :=
  match _h : n.react canPrompt bs with
  | .wait => .waiting n bs
  | .refuse _ cause => .refused (.socks cause)
  | .prompt => .prompting (bs.drop 2)
  | .request => n.asking.hear canPrompt (bs.drop 2)
  | .grant taken => .granted (bs.drop taken)
termination_by bs.length
decreasing_by
  have htwo := two_le_of_react_eq_request _h
  rw [List.length_drop]
  omega

section

variable {canPrompt : Bool} {n : Negotiation} {bs : Bytes}

theorem hear_of_wait (h : n.react canPrompt bs = .wait) :
    n.hear canPrompt bs = .waiting n bs := by
  rw [hear]
  split <;> simp_all

theorem hear_of_refuse {taken : Nat} {cause : SocksFailure}
    (h : n.react canPrompt bs = .refuse taken cause) :
    n.hear canPrompt bs = .refused (.socks cause) := by
  rw [hear]
  split <;> simp_all

theorem hear_of_prompt (h : n.react canPrompt bs = .prompt) :
    n.hear canPrompt bs = .prompting (bs.drop 2) := by
  rw [hear]
  split <;> simp_all

theorem hear_of_request (h : n.react canPrompt bs = .request) :
    n.hear canPrompt bs = n.asking.hear canPrompt (bs.drop 2) := by
  rw [hear]
  split <;> simp_all

theorem hear_of_grant {taken : Nat} (h : n.react canPrompt bs = .grant taken) :
    n.hear canPrompt bs = .granted (bs.drop taken) := by
  rw [hear]
  split <;> simp_all

end

end Negotiation

def Standing.rest : Standing → Bytes
  | waiting _ rest => rest
  | prompting rest => rest
  | granted rest => rest
  | refused _ => []

def Standing.hear (canPrompt : Bool) (more : Bytes) : Standing → Standing
  | waiting n rest => n.hear canPrompt (rest ++ more)
  | prompting rest => prompting (rest ++ more)
  | granted rest => granted (rest ++ more)
  | refused f => refused f

namespace Negotiation

theorem hear_append (canPrompt : Bool) (n : Negotiation) (bs more : Bytes) :
    n.hear canPrompt (bs ++ more) = (n.hear canPrompt bs).hear canPrompt more := by
  have hdrop {bs : Bytes} {k : Nat} (hk : k ≤ bs.length) :
      (bs ++ more).drop k = bs.drop k ++ more := List.drop_append_of_le_length hk
  -- every reply but one that is not complete draws the same reaction with more bytes behind it
  fun_induction hear canPrompt n bs with
  | case1 n bs h => rfl
  | case2 n bs taken cause h =>
    exact hear_of_refuse ((react_append (by simp [h]) more).trans h)
  | case3 n bs h =>
    have htwo : 2 ≤ bs.length := by
      have hle := n.taken_react_le canPrompt bs
      rwa [h] at hle
    rw [hear_of_prompt ((react_append (by simp [h]) more).trans h), hdrop htwo]
    rfl
  | case4 n bs h ih =>
    rw [hear_of_request ((react_append (by simp [h]) more).trans h),
      hdrop (two_le_of_react_eq_request h), ih]
  | case5 n bs taken h =>
    have htaken : taken ≤ bs.length := by
      have hle := n.taken_react_le canPrompt bs
      rwa [h] at hle
    rw [hear_of_grant ((react_append (by simp [h]) more).trans h), hdrop htaken]
    rfl

theorem length_rest_hear_le (canPrompt : Bool) (n : Negotiation) (bs : Bytes) :
    (n.hear canPrompt bs).rest.length ≤ bs.length := by
  fun_induction hear canPrompt n bs with
  | case1 n bs h => exact Nat.le_refl _
  | case2 n bs taken cause h => exact Nat.zero_le _
  | case3 n bs h => exact (List.drop_sublist 2 bs).length_le
  | case4 n bs h ih => exact Nat.le_trans ih (List.drop_sublist 2 bs).length_le
  | case5 n bs taken h => exact (List.drop_sublist taken bs).length_le

theorem of_hear_eq_waiting {canPrompt : Bool} {n n' : Negotiation} {bs rest : Bytes}
    (h : n.hear canPrompt bs = .waiting n' rest) :
    n' = n ∨ n.stage.hasAsked = false ∧ n' = n.asking := by
  fun_induction hear canPrompt n bs with
  | case1 n bs hreact =>
    cases h
    exact .inl rfl
  | case2 n bs taken cause hreact => cases h
  | case3 n bs hreact => cases h
  | case4 n bs hreact ih =>
    refine .inr ⟨(of_react_eq_request hreact).1, ?_⟩
    rcases ih h with rfl | ⟨-, rfl⟩ <;> rfl
  | case5 n bs taken hreact => cases h

theorem of_hear_eq_refused {canPrompt : Bool} {n : Negotiation} {bs : Bytes} {f : Failure}
    (h : n.hear canPrompt bs = .refused f) : ∃ cause, f = .socks cause := by
  fun_induction hear canPrompt n bs with
  | case1 n bs hreact => cases h
  | case2 n bs taken cause hreact =>
    cases h
    exact ⟨cause, rfl⟩
  | case3 n bs hreact => cases h
  | case4 n bs hreact ih => exact ih h
  | case5 n bs taken hreact => cases h

theorem hear_ne_prompting {canPrompt : Bool} {n : Negotiation}
    (h : n.stage.version = .v4 ∨ canPrompt = false) (bs rest : Bytes) :
    n.hear canPrompt bs ≠ .prompting rest := by
  fun_induction hear canPrompt n bs with
  | case1 n bs hreact => exact nofun
  | case2 n bs taken cause hreact => exact nofun
  | case3 n bs hreact =>
    obtain ⟨hstage, hprompt⟩ := of_react_eq_prompt hreact
    rcases h with hversion | hnone
    · rw [hstage] at hversion
      cases hversion
    · exact nomatch hnone.symm.trans hprompt
  | case4 n bs hreact ih =>
    refine ih (h.imp (fun hversion => ?_) id)
    have hasked := (of_react_eq_request hreact).1
    cases hstage : n.stage with
    | v4 =>
      rw [hstage] at hasked
      cases hasked
    | v5 stage =>
      rw [hstage] at hversion
      cases hversion
  | case5 n bs taken hreact => exact nofun

end Negotiation

namespace Exchange

def follow (x : Exchange) : Reaction → Except Failure Progress × Exchange
  | .wait => (.ok .needMore, x)
  | .refuse taken cause => (.error (.socks cause), x.skip taken)
  | .prompt => (.ok .credentialsRequested, { x.skip 2 with
      negotiation := { x.negotiation with stage := .v5 .userPassword, awaiting := true } })
  | .request => (x.skip 2).requestTunnel
  | .grant taken => (.ok .connected, x.skip taken)

theorem skip_zero (x : Exchange) : x.skip 0 = x := by
  simp [skip, ByteQueue.discard, ByteQueue.length]

theorem requestTunnel_of_error {x : Exchange} {f : Failure}
    (h : (Frame.connectByName x.negotiation.host x.negotiation.port >>= x.outbound.append) =
      .error f) : x.requestTunnel = (.error f, x) := by
  unfold requestTunnel
  rw [h]

theorem requestTunnel_of_ok {x : Exchange} {outbound : ByteQueue}
    (h : (Frame.connectByName x.negotiation.host x.negotiation.port >>= x.outbound.append) =
      .ok outbound) :
    x.requestTunnel = (.ok .needMore, ⟨x.negotiation.asking, x.inbound, outbound⟩) := by
  unfold requestTunnel
  rw [h]
  rfl

theorem requestTunnel_eq_follow (x : Exchange) :
    (x.skip 2).requestTunnel = x.follow x.negotiation.reactRequest := by
  rcases x.negotiation.reactRequest_cases with ⟨h, hhost⟩ | ⟨h, -⟩
  · rw [h]
    refine requestTunnel_of_error (x := x.skip 2) ?_
    unfold Frame.connectByName
    rw [if_pos (show Frame.maxText < (x.skip 2).negotiation.host.utf8ByteSize from hhost)]
    rfl
  · rw [h]
    rfl

theorem stepV4_eq_follow (x : Exchange) :
    x.stepV4 = x.follow (Negotiation.reactV4 x.inbound.bytes) := by
  unfold stepV4 Negotiation.reactV4 ByteQueue.length
  rcases x.inbound.bytes with _ | ⟨version, _ | ⟨code, rest⟩⟩
  · rfl
  · rfl
  · dsimp only
    split
    · rfl
    · cases Reply.judgeV4 version code <;> rfl

theorem stepMethods_eq_follow (canPrompt : Bool) (x : Exchange) :
    x.stepMethods canPrompt = x.follow (x.negotiation.reactMethods canPrompt x.inbound.bytes) := by
  unfold stepMethods Negotiation.reactMethods
  rcases x.inbound.bytes with _ | ⟨version, _ | ⟨method, rest⟩⟩
  · rfl
  · rfl
  · dsimp only
    split
    · rfl
    split
    · exact requestTunnel_eq_follow x
    split <;> rfl

theorem stepUserPassword_eq_follow (x : Exchange) :
    x.stepUserPassword = x.follow (x.negotiation.reactUserPassword x.inbound.bytes) := by
  unfold stepUserPassword Negotiation.reactUserPassword
  rcases x.inbound.bytes with _ | ⟨first, _ | ⟨code, rest⟩⟩
  · rfl
  · rfl
  · dsimp only
    split
    · rfl
    · exact requestTunnel_eq_follow x

theorem stepConnect_eq_follow (x : Exchange) :
    x.stepConnect = x.follow (Negotiation.reactConnect x.inbound.bytes) := by
  unfold stepConnect Negotiation.reactConnect ByteQueue.length
  rcases x.inbound.bytes with
    _ | ⟨version, _ | ⟨code, _ | ⟨reserved, _ | ⟨kind, _ | ⟨size, rest⟩⟩⟩⟩⟩
  · rfl
  · rfl
  · rfl
  · rfl
  · rfl
  · dsimp only
    cases Reply.lengthV5 version code kind size with
    | error cause =>
      change _ = (Except.error (Failure.socks cause), x.skip 0)
      rw [skip_zero]
    | ok taken =>
      dsimp only
      split <;> rfl

theorem step_eq_follow (canPrompt : Bool) (x : Exchange) :
    x.step canPrompt = x.follow (x.negotiation.react canPrompt x.inbound.bytes) := by
  unfold step Negotiation.react
  cases x.negotiation.stage with
  | v4 => exact x.stepV4_eq_follow
  | v5 stage =>
    cases stage with
    | methods => exact x.stepMethods_eq_follow canPrompt
    | userPassword => exact x.stepUserPassword_eq_follow
    | connect => exact x.stepConnect_eq_follow

def HasRoom (x : Exchange) : Prop :=
  x.negotiation.stage.hasAsked = false →
    x.outbound.length + Frame.maxConnect ≤ x.outbound.ceiling

def standing : Except Failure Progress × Exchange → Standing
  | (.ok .needMore, x) => .waiting x.negotiation x.inbound.bytes
  | (.ok .credentialsRequested, x) => .prompting x.inbound.bytes
  | (.ok .connected, x) => .granted x.inbound.bytes
  | (.error f, _) => .refused f

variable {canPrompt : Bool} {x x' : Exchange}

theorem step_of_request (hroom : x.HasRoom)
    (h : x.negotiation.react canPrompt x.inbound.bytes = .request) :
    ∃ outbound, x.step canPrompt =
      (.ok .needMore, ⟨x.negotiation.asking, x.inbound.discard 2, outbound⟩) := by
  obtain ⟨hasked, hhost⟩ := Negotiation.of_react_eq_request h
  obtain ⟨frame, hframe⟩ := Frame.exists_connectByName_iff.2 hhost
  have hlength := Frame.length_connectByName hframe
  have hfits := hroom hasked
  obtain ⟨outbound, hout⟩ : ∃ outbound, x.outbound.append frame = .ok outbound :=
    ByteQueue.exists_append_eq_ok (by omega)
  have hqueued : (Frame.connectByName x.negotiation.host x.negotiation.port >>=
      x.outbound.append) = .ok outbound := by
    rw [hframe]
    exact hout
  refine ⟨outbound, ?_⟩
  rw [step_eq_follow, h]
  exact requestTunnel_of_ok (x := x.skip 2) hqueued

theorem step_of_ne_request (h : x.negotiation.react canPrompt x.inbound.bytes ≠ .request) :
    standing (x.step canPrompt) = x.negotiation.hear canPrompt x.inbound.bytes ∧
      ((x.step canPrompt).1 = .ok .needMore → (x.step canPrompt).2 = x) := by
  rw [step_eq_follow]
  cases hreact : x.negotiation.react canPrompt x.inbound.bytes with
  | request => exact absurd hreact h
  | wait => exact ⟨(Negotiation.hear_of_wait hreact).symm, fun _ => rfl⟩
  | refuse taken cause => exact ⟨(Negotiation.hear_of_refuse hreact).symm, nofun⟩
  | prompt => exact ⟨(Negotiation.hear_of_prompt hreact).symm, nofun⟩
  | grant taken => exact ⟨(Negotiation.hear_of_grant hreact).symm, nofun⟩

/-- The loop that takes one reply after another stops where all of the bytes lead: not before a
complete reply, and with nothing taken of one that is not complete. -/
theorem standing_advance (hroom : x.HasRoom) :
    standing (x.advance canPrompt) = x.negotiation.hear canPrompt x.inbound.bytes := by
  -- only after a request can the next reply be there already
  fun_induction advance canPrompt x with
  | case1 x x' hstep hmore ih =>
    by_cases hreact : x.negotiation.react canPrompt x.inbound.bytes = .request
    · obtain ⟨outbound, hrequest⟩ := step_of_request hroom hreact
      cases hrequest.symm.trans hstep
      rw [Negotiation.hear_of_request hreact]
      exact ih fun hasked => by cases hasked
    · have hsame := (step_of_ne_request hreact).2
      rw [hstep] at hsame
      cases hsame rfl
      exact absurd hmore.2 (Nat.lt_irrefl _)
  | case2 x x' hstep hdone =>
    by_cases hreact : x.negotiation.react canPrompt x.inbound.bytes = .request
    · obtain ⟨outbound, hrequest⟩ := step_of_request hroom hreact
      cases hrequest.symm.trans hstep
      have htwo := Negotiation.two_le_of_react_eq_request hreact
      have hnone : x.inbound.bytes.drop 2 = [] := by
        refine List.eq_nil_of_length_eq_zero ?_
        simp only [ByteQueue.length, ByteQueue.bytes_discard, List.length_drop] at hdone ⊢
        omega
      rw [Negotiation.hear_of_request hreact]
      change Standing.waiting _ (x.inbound.bytes.drop 2) = _
      rw [hnone, Negotiation.hear_of_wait (Negotiation.react_nil ..)]
    · rw [← hstep]
      exact (step_of_ne_request hreact).1
  | case3 x hdone =>
    by_cases hreact : x.negotiation.react canPrompt x.inbound.bytes = .request
    · obtain ⟨outbound, hrequest⟩ := step_of_request hroom hreact
      exact (hdone _ hrequest).elim
    · exact (step_of_ne_request hreact).1

end Exchange

end LineTunnel.Socks
