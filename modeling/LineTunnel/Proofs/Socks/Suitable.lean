import LineTunnel.Proofs.Socks.Reaction

/-! A negotiation suits the proxy that it talks to: it stays in the stages of that proxy's version,
and only a proxy that was heard can have asked for credentials. The queues on both sides keep to
their ceilings meanwhile. -/

namespace LineTunnel.Socks

def Stage.isFirst : Stage → Bool
  | v4 => true
  | v5 .methods => true
  | _ => false

structure Negotiation.Suits (n : Negotiation) (version : Version) : Prop where
  version : n.stage.version = version
  prompted : n.awaiting = true → n.stage.isFirst = false

variable {canPrompt : Bool} {version : Version}

theorem Negotiation.Suits.asking {n : Negotiation} (h : n.Suits version)
    (hasked : n.stage.hasAsked = false) : n.asking.Suits version := by
  refine ⟨?_, fun _ => rfl⟩
  rw [← h.version]
  cases hstage : n.stage with
  | v4 =>
    rw [hstage] at hasked
    cases hasked
  | v5 stage => rfl

theorem Negotiation.Suits.version_eq_v5 {n : Negotiation} (h : n.Suits version)
    (hawaiting : n.awaiting = true) : version = .v5 := by
  have hlater := h.prompted hawaiting
  rw [← h.version]
  cases hstage : n.stage with
  | v4 =>
    rw [hstage] at hlater
    cases hlater
  | v5 stage => rfl

theorem Negotiation.start_suits {lookup : NameLookup} {me : LocalUser} {server : Server}
    {host : String} {port : UInt16} {offer : Bool} {out out' : ByteQueue} {n : Negotiation}
    (h : start lookup me server host port offer out = .ok (n, out')) :
    n.Suits server.version ∧ n.stage.isFirst = true ∧
      (n.stage.hasAsked = false → out'.length ≤ out.length + Frame.maxMethods) := by
  obtain ⟨frame, hframe, hout, ⟨hversion, rfl⟩ | ⟨hversion, rfl⟩⟩ := start_cases h
  · refine ⟨⟨hversion.symm, fun hawaiting => by cases hawaiting⟩, rfl, fun _ => ?_⟩
    unfold openingRequest at hframe
    rw [hversion] at hframe
    cases hframe
    rw [ByteQueue.length, ByteQueue.bytes_append hout, List.length_append]
    refine Nat.add_le_add_left ?_ _
    cases offer <;> decide
  · exact ⟨⟨hversion.symm, fun hawaiting => by cases hawaiting⟩, rfl,
      fun hasked => by cases hasked⟩

namespace Exchange

structure Sound (version : Version) (x : Exchange) : Prop where
  suits : x.negotiation.Suits version
  inbound : x.inbound.Fits ByteQueue.readCeiling
  outbound : x.outbound.Fits ByteQueue.writeCeiling

variable {x : Exchange}

theorem Sound.skip (h : x.Sound version) (n : Nat) : (x.skip n).Sound version :=
  ⟨h.suits, h.inbound.discard n, h.outbound⟩

theorem Sound.requestTunnel (h : x.Sound version) (hasked : x.negotiation.stage.hasAsked = false) :
    x.requestTunnel.2.Sound version := by
  unfold Exchange.requestTunnel
  split
  · exact h
  · next outbound hout =>
    obtain ⟨frame, -, happend⟩ := exists_of_bind_eq_ok hout
    exact ⟨h.suits.asking hasked, h.inbound, h.outbound.append happend⟩

theorem Sound.step (h : x.Sound version) : (x.step canPrompt).2.Sound version := by
  rw [step_eq_follow]
  cases hreact : x.negotiation.react canPrompt x.inbound.bytes with
  | wait => exact h
  | refuse taken cause => exact h.skip taken
  | grant taken => exact h.skip taken
  | request =>
    exact (h.skip 2).requestTunnel (Negotiation.of_react_eq_request hreact).1
  | prompt =>
    have hversion := h.suits.version
    rw [(Negotiation.of_react_eq_prompt hreact).1] at hversion
    exact ⟨⟨hversion, fun _ => rfl⟩, h.inbound.discard 2, h.outbound⟩

theorem Sound.advance (h : x.Sound version) : (x.advance canPrompt).2.Sound version := by
  fun_induction Exchange.advance canPrompt x with
  | case1 x x' hstep hmore ih =>
    have hnext : (x.step canPrompt).2.Sound version := h.step
    rw [hstep] at hnext
    exact ih hnext
  | case2 x x' hstep hdone =>
    have hnext : (x.step canPrompt).2.Sound version := h.step
    rwa [hstep] at hnext
  | case3 x hdone => exact h.step

end Exchange

end LineTunnel.Socks
