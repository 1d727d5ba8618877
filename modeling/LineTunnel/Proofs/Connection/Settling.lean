import LineTunnel.Proofs.Connection.Work
import LineTunnel.Proofs.Socks.Extension
import LineTunnel.Proofs.Socks.Verdict

/-! Where a negotiation stops to take replies. After the reply to its offer or to the credentials it
takes at most one more, the one that decides on the tunnel. When it stops to wait, it has looked at
everything that has arrived: another step, or one that is shown less, would wait as well. -/

namespace LineTunnel

namespace Socks.Exchange

def advanceWithin (canPrompt : Bool) :
    Nat → Exchange → Option (Except Failure Progress × Exchange)
  | 0, _ => none
  | steps + 1, x =>
    match x.step canPrompt with
    | (.ok .needMore, x') =>
      if x'.inbound.isEmpty ∨ x'.inbound.length = x.inbound.length then some (.ok .needMore, x')
      else x'.advanceWithin canPrompt steps
    | done => some done

variable {canPrompt : Bool} {x x' : Exchange}

theorem react_asking_ne_request (n : Negotiation) (bs : Bytes) :
    n.asking.react canPrompt bs ≠ .request :=
  fun h => nomatch (Negotiation.of_react_eq_request h).1

theorem advanceWithin_of_ne_request
    (h : x.negotiation.react canPrompt x.inbound.bytes ≠ .request) (steps : Nat) :
    x.advanceWithin canPrompt (steps + 1) = some (x.advance canPrompt) := by
  rw [advance_of_ne_request h, advanceWithin, step_eq_follow]
  cases hreact : x.negotiation.react canPrompt x.inbound.bytes with
  | request => exact absurd hreact h
  | wait => exact if_pos (.inr rfl)
  | refuse taken cause => rfl
  | prompt => rfl
  | grant taken => rfl

theorem advanceWithin_two (canPrompt : Bool) (x : Exchange) :
    x.advanceWithin canPrompt 2 = some (x.advance canPrompt) := by
  rw [advanceWithin, advance]
  cases hstep : x.step canPrompt with
  | mk answer x' =>
    rcases answer with f | ⟨_ | _ | _⟩
    case error => rfl
    case ok.credentialsRequested => rfl
    case ok.connected => rfl
    case ok.needMore =>
      dsimp only
      have hwait : (x.step canPrompt).1 = .ok .needMore := congrArg Prod.fst hstep
      -- either nothing was taken, or the request for the tunnel is queued, and none can follow it
      rcases step_of_needMore hwait with ⟨-, hsame⟩ | ⟨htwo, outbound, hnext⟩
      · rw [hstep] at hsame
        cases hsame
        rw [if_pos (.inr rfl), if_neg fun hmore => Nat.lt_irrefl _ hmore.2]
      · rw [hstep] at hnext
        cases hnext
        have hlength : (x.inbound.discard 2).length = x.inbound.length - 2 := List.length_drop ..
        by_cases hnone : (x.inbound.discard 2).length = 0
        · rw [if_pos (.inl ((ByteQueue.isEmpty_iff _).2 hnone)),
            if_neg fun hmore => absurd hmore.1 (by rw [hnone]; exact Nat.lt_irrefl 0)]
        · have hmore : 0 < (x.inbound.discard 2).length ∧
              (x.inbound.discard 2).length < x.inbound.length := by omega
          rw [if_neg ?rest, if_pos hmore]
          · exact advanceWithin_of_ne_request (react_asking_ne_request x.negotiation _) 0
          case rest =>
            rintro (hempty | hsame)
            · exact hnone ((ByteQueue.isEmpty_iff _).1 hempty)
            · exact Nat.ne_of_lt hmore.2 hsame

theorem react_of_advance (h : x.advance canPrompt = (.ok .needMore, x')) :
    x'.negotiation.react canPrompt x'.inbound.bytes = .wait := by
  fun_induction advance canPrompt x with
  | case1 x next hstep hmore ih => exact ih h
  | case2 x next hstep hdone =>
    cases h
    have hwait : (x.step canPrompt).1 = .ok .needMore := congrArg Prod.fst hstep
    rcases step_of_needMore hwait with ⟨hreact, hsame⟩ | ⟨htwo, outbound, hnext⟩
    · rw [hstep] at hsame
      cases hsame
      exact hreact
    · rw [hstep] at hnext
      cases hnext
      have hnone : x.inbound.bytes.drop 2 = [] := by
        refine List.eq_nil_of_length_eq_zero ?_
        simp only [ByteQueue.length, ByteQueue.bytes_discard, List.length_drop] at hdone htwo ⊢
        omega
      change Negotiation.react canPrompt _ (x.inbound.bytes.drop 2) = _
      rw [hnone]
      exact Negotiation.react_nil ..
  | case3 x hdone => exact (hdone _ h).elim

theorem step_of_prefix (hreact : x.negotiation.react canPrompt x.inbound.bytes = .wait)
    {part : ByteQueue} (hpart : part.bytes <+: x.inbound.bytes) :
    ({ x with inbound := part } : Exchange).step canPrompt =
      (.ok .needMore, { x with inbound := part }) := by
  have hwait : x.negotiation.react canPrompt part.bytes = .wait := by
    obtain ⟨rest, hrest⟩ := hpart
    refine Decidable.byContradiction fun hne => hne ?_
    rw [← Negotiation.react_append hne rest, hrest, hreact]
  rw [step_eq_follow]
  change Exchange.follow _ (x.negotiation.react canPrompt part.bytes) = _
  rw [hwait]
  rfl

end Socks.Exchange

namespace Connection

variable {σ : Type}

/-- Two steps are enough whatever has arrived. When the negotiation goes on and no credentials were
asked for, one more step would wait and change nothing, and so it would at every beginning of what
is left. -/
theorem advance_settles (c : Connection σ) {n : Socks.Negotiation}
    (hphase : c.phase = .negotiating n) :
    let x := Socks.Exchange.mk n c.inbound c.handshake
    let c' := c.advance.2.1
    x.advanceWithin c.prompter.isSome 2 = some (x.advance c.prompter.isSome) ∧
      ∀ n', c.advance.1 = .ok () → c'.phase = .negotiating n' →
        (x.advance c.prompter.isSome).1 ≠ .ok .credentialsRequested →
        ∀ part : ByteQueue, part.bytes <+: c'.inbound.bytes →
          (Socks.Exchange.mk n' part c'.handshake).step c'.prompter.isSome =
            (.ok .needMore, ⟨n', part, c'.handshake⟩) := by
  intro x c'
  refine ⟨x.advanceWithin_two _, fun n' hok hphase' hunasked part hpart => ?_⟩
  obtain ⟨p, x', told, -, hadvance, hc⟩ := advance_negotiating hphase
  have hafter : c' = { c with
      phase := .ofProgress p x'.negotiation, inbound := x'.inbound, handshake := x'.outbound } := by
    change c.advance.2.1 = _
    rw [hc]
  change x.advance c.prompter.isSome = _ at hadvance
  rw [hc] at hok
  rw [hadvance] at hunasked
  rw [hafter] at hphase' hpart ⊢
  rcases p with f | ⟨_ | _ | _⟩
  case error => cases hok
  case ok.credentialsRequested => exact absurd rfl hunasked
  case ok.connected => cases hphase'
  case ok.needMore =>
    cases hphase'
    exact Socks.Exchange.step_of_prefix (Socks.Exchange.react_of_advance hadvance) hpart

set_option maxRecDepth 4000 in
theorem advance_settles_four_bytes :
    let c : Connection Unit := { create ⟨10, some 13⟩ none with
      phase := .negotiating { stage := .v5 .methods, host := "h", port := 80 }
      inbound := ⟨[5, 0, 5, 0, 0, 1], [], 32768⟩ }
    let asking : Socks.Negotiation := { stage := .v5 .connect, host := "h", port := 80 }
    let x : Socks.Exchange :=
      ⟨{ stage := .v5 .methods, host := "h", port := 80 }, c.inbound, c.handshake⟩
    let c' := c.advance.2.1
    c'.phase = .negotiating asking ∧ c'.inbound.bytes = [5, 0, 0, 1] ∧
      c'.handshake.bytes = [5, 1, 0, 3, 1, 104, 0, 80] ∧
      x.advanceWithin false 1 = none ∧ x.advanceWithin false 2 = some (x.advance false) ∧
      (Socks.Exchange.mk asking c'.inbound c'.handshake).step false =
        (.ok .needMore, ⟨asking, c'.inbound, c'.handshake⟩) := by
  intro c asking x c'
  have hsteps : x.advanceWithin false 1 = none :=
    Option.isNone_iff_eq_none.1 (by decide +kernel)
  have hreached : c.advance.1.toBool = true ∧ c.advance.2.1.phase = .negotiating asking ∧
      c.advance.2.1.inbound.bytes = [5, 0, 0, 1] ∧
      c.advance.2.1.handshake.bytes = [5, 1, 0, 3, 1, 104, 0, 80] ∧
      (x.advance false).1.toOption = some .needMore := by decide +kernel
  obtain ⟨hdone, hphase, hinbound, hhandshake, hwait⟩ := hreached
  have hok : c.advance.1 = .ok () := by
    cases hanswer : c.advance.1 with
    | error f =>
      rw [hanswer] at hdone
      cases hdone
    | ok => rfl
  have hunasked : (x.advance false).1 ≠ .ok .credentialsRequested := by
    intro hasked
    rw [hasked] at hwait
    cases hwait
  obtain ⟨hwithin, hsettled⟩ := advance_settles c rfl
  exact ⟨hphase, hinbound, hhandshake, hsteps, hwithin,
    hsettled asking hok hphase hunasked c'.inbound (List.prefix_refl _)⟩

end Connection

end LineTunnel
