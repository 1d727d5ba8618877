import LineTunnel.Proofs.Socks.Reaction

/-! One step of a negotiation, with more bytes behind those that it was given first. What it has
made of the first bytes stands: the same answer, the same state and the same requests, and the
further bytes are behind what was left. Only where it waited can it do more now, and there it had
left everything as it was. -/

namespace LineTunnel.Socks.Exchange

structure Extends (x y : Exchange) (more : Bytes) : Prop where
  negotiation_eq : y.negotiation = x.negotiation
  outbound_eq : y.outbound = x.outbound
  bytes_eq : y.inbound.bytes = x.inbound.bytes ++ more

variable {canPrompt : Bool} {x y : Exchange} {more : Bytes}

theorem Extends.skip (h : x.Extends y more) {n : Nat} (hn : n ≤ x.inbound.length) :
    (x.skip n).Extends (y.skip n) more := by
  refine ⟨h.negotiation_eq, h.outbound_eq, ?_⟩
  change y.inbound.bytes.drop n = x.inbound.bytes.drop n ++ more
  rw [h.bytes_eq]
  exact List.drop_append_of_le_length hn

theorem Extends.requestTunnel (h : x.Extends y more) :
    y.requestTunnel.1 = x.requestTunnel.1 ∧
      x.requestTunnel.2.Extends y.requestTunnel.2 more := by
  cases hqueued : Frame.connectByName x.negotiation.host x.negotiation.port >>=
      x.outbound.append with
  | error f =>
    have hqueued' := hqueued
    rw [← h.negotiation_eq, ← h.outbound_eq] at hqueued'
    rw [requestTunnel_of_error hqueued, requestTunnel_of_error hqueued']
    exact ⟨rfl, h⟩
  | ok outbound =>
    have hqueued' := hqueued
    rw [← h.negotiation_eq, ← h.outbound_eq] at hqueued'
    rw [requestTunnel_of_ok hqueued, requestTunnel_of_ok hqueued', h.negotiation_eq]
    exact ⟨rfl, rfl, rfl, h.bytes_eq⟩

theorem Extends.follow (h : x.Extends y more) {reaction : Reaction}
    (htaken : reaction.taken ≤ x.inbound.length) :
    (y.follow reaction).1 = (x.follow reaction).1 ∧
      (x.follow reaction).2.Extends (y.follow reaction).2 more := by
  cases reaction with
  | wait => exact ⟨rfl, h⟩
  | refuse taken cause => exact ⟨rfl, h.skip htaken⟩
  | prompt =>
    refine ⟨rfl, ?_, h.outbound_eq, (h.skip htaken).bytes_eq⟩
    exact congrArg (fun n => { n with stage := .v5 .userPassword, awaiting := true })
      h.negotiation_eq
  | request => exact (h.skip htaken).requestTunnel
  | grant taken => exact ⟨rfl, h.skip htaken⟩

theorem follow_suffix (x : Exchange) (reaction : Reaction) :
    (x.follow reaction).2.inbound.bytes <:+ x.inbound.bytes := by
  cases reaction with
  | wait => exact List.suffix_refl _
  | refuse taken cause => exact List.drop_suffix ..
  | prompt => exact List.drop_suffix ..
  | request =>
    change (x.skip 2).requestTunnel.2.inbound.bytes <:+ _
    unfold requestTunnel
    split <;> exact List.drop_suffix ..
  | grant taken => exact List.drop_suffix ..

theorem step_of_needMore (h : (x.step canPrompt).1 = .ok .needMore) :
    x.negotiation.react canPrompt x.inbound.bytes = .wait ∧ (x.step canPrompt).2 = x ∨
      2 ≤ x.inbound.length ∧ ∃ outbound,
        (x.step canPrompt).2 = ⟨x.negotiation.asking, x.inbound.discard 2, outbound⟩ := by
  rw [step_eq_follow] at h ⊢
  cases hreact : x.negotiation.react canPrompt x.inbound.bytes with
  | wait => exact .inl ⟨rfl, rfl⟩
  | request =>
    rw [hreact] at h
    change (x.skip 2).requestTunnel.1 = _ at h
    obtain ⟨f, herror⟩ | ⟨outbound, -, hok⟩ := requestTunnel_cases (x.skip 2)
    · rw [herror] at h
      cases h
    · exact .inr ⟨Negotiation.two_le_of_react_eq_request hreact, outbound, congrArg Prod.snd hok⟩
  | refuse | prompt | grant =>
    rw [hreact] at h
    cases h

/-- At every stage, whatever is queued: a step that waits and has taken nothing has changed nothing,
and any other is the same step with more bytes behind. -/
theorem step_of_extends (canPrompt : Bool) (h : x.Extends y more) :
    let short := x.step canPrompt
    let long := y.step canPrompt
    short.2.inbound.bytes <:+ x.inbound.bytes ∧
      (short.1 = .ok .needMore → short.2.inbound.length = x.inbound.length → short.2 = x) ∧
      (short.1 ≠ .ok .needMore ∨ short.2.inbound.length ≠ x.inbound.length →
        long.1 = short.1 ∧ short.2.Extends long.2 more) := by
  intro short long
  refine ⟨?leftover, fun hwait hlength => ?same, fun hmoved => ?stable⟩
  case leftover =>
    change (x.step canPrompt).2.inbound.bytes <:+ _
    rw [step_eq_follow]
    exact x.follow_suffix _
  case same =>
    -- the reply that leads to a request for the tunnel has been taken by then
    rcases step_of_needMore hwait with ⟨-, hsame⟩ | ⟨htwo, outbound, hnext⟩
    · exact hsame
    · change (x.step canPrompt).2.inbound.length = _ at hlength
      rw [hnext, ByteQueue.length, ByteQueue.bytes_discard, List.length_drop] at hlength
      unfold ByteQueue.length at htwo hlength
      omega
  case stable =>
    -- a step that only waits does neither, so there was a reaction, and it stays
    have hreact : x.negotiation.react canPrompt x.inbound.bytes ≠ .wait := by
      intro hwait
      have hshort : short = (.ok .needMore, x) := by
        change x.step canPrompt = _
        rw [step_eq_follow, hwait]
        rfl
      rw [hshort] at hmoved
      exact hmoved.elim (fun hne => hne rfl) (fun hne => hne rfl)
    have hlong : y.negotiation.react canPrompt y.inbound.bytes =
        x.negotiation.react canPrompt x.inbound.bytes := by
      rw [h.negotiation_eq, h.bytes_eq]
      exact Negotiation.react_append hreact more
    change (y.step canPrompt).1 = (x.step canPrompt).1 ∧
      (x.step canPrompt).2.Extends (y.step canPrompt).2 more
    rw [step_eq_follow, step_eq_follow, hlong]
    exact h.follow (x.negotiation.taken_react_le canPrompt x.inbound.bytes)

theorem step_of_extends_short_reply :
    let asking : Exchange := ⟨{ stage := .v5 .connect, host := "h", port := 80 },
      ⟨[5, 4, 0, 3, 9], [], 32768⟩, ⟨[], [], 65536⟩⟩
    let offering : Exchange := ⟨{ stage := .v5 .methods, host := "h", port := 80 },
      ⟨[5, 0], [], 32768⟩, ⟨[], [], 65536⟩⟩
    let asking' := { asking with inbound := ⟨[5, 4, 0, 3, 9, 104], [0], 32768⟩ }
    let offering' := { offering with inbound := ⟨[5, 0, 5, 0], [], 32768⟩ }
    asking.Extends asking' [104] ∧ offering.Extends offering' [5, 0] ∧
      (asking'.step false).1 = .error (.socks .hostUnreachable) ∧
      (asking'.step false).2.inbound.bytes = [5, 4, 0, 3, 9] ++ [104] ∧
      (offering'.step false).1 = .ok .needMore ∧
      (offering'.step false).2.negotiation.stage = .v5 .connect ∧
      (offering'.step false).2.inbound.bytes = [] ++ [5, 0] := by
  intro asking offering asking' offering'
  have hasking : asking.Extends asking' [104] := ⟨rfl, rfl, rfl⟩
  have hoffering : offering.Extends offering' [5, 0] := ⟨rfl, rfl, rfl⟩
  have hrefused : asking.step false = (.error (.socks .hostUnreachable), asking) := by rfl
  have hchosen : offering.negotiation.react false offering.inbound.bytes = .request := by
    decide +kernel
  obtain ⟨outbound, hnext⟩ := step_of_request (fun _ => by decide +kernel) hchosen
  have hmoved : (offering.step false).2.inbound.length ≠ offering.inbound.length := by
    rw [hnext]
    change 0 ≠ 2
    decide
  obtain ⟨-, -, hstable⟩ := step_of_extends false hasking
  obtain ⟨hanswer, hsame⟩ := hstable (.inl (by rw [hrefused]; exact nofun))
  obtain ⟨-, -, hstable'⟩ := step_of_extends false hoffering
  obtain ⟨hanswer', hsame'⟩ := hstable' (.inr hmoved)
  rw [hrefused] at hanswer hsame
  rw [hnext] at hanswer' hsame'
  exact ⟨hasking, hoffering, hanswer, hsame.bytes_eq, hanswer',
    congrArg Negotiation.stage hsame'.negotiation_eq, hsame'.bytes_eq⟩

end LineTunnel.Socks.Exchange
