import LineTunnel.Proofs.Socks.Reaction

/-! A negotiation in the hands of a proxy and of a user who answer when they like. The proxy may
accept credentials that nobody has given yet; then the request for the tunnel is queued at once, and
the credentials, when they come, behind it. As long as no proxy does that, the credentials come
first. -/

namespace LineTunnel.Socks

inductive Call where
  | reply (canPrompt : Bool) (input output : ByteQueue)
  | submit (user password : String) (output : ByteQueue)

inductive Utterance where
  | prompted
  | credentials (frame : Bytes)
  | request (frame : Bytes)
  deriving DecidableEq, Repr

structure Dialogue where
  negotiation : Negotiation
  log : List Utterance := []
  deriving DecidableEq, Repr

def Negotiation.answer (n : Negotiation) : Call → Negotiation × List Utterance
  | .reply canPrompt input output =>
    let (result, x) := (Exchange.mk n input output).step canPrompt
    let queued := x.outbound.bytes.drop output.length
    let prompted := match result with
      | .ok .credentialsRequested => [.prompted]
      | _ => []
    (x.negotiation, prompted ++ if queued = [] then [] else [.request queued])
  | .submit user password output =>
    let (_, x) := (Exchange.mk n .forReading output).submit user password
    let queued := x.outbound.bytes.drop output.length
    (x.negotiation, if queued = [] then [] else [.credentials queued])

namespace Dialogue

def step (d : Dialogue) (call : Call) : Dialogue :=
  ⟨(d.negotiation.answer call).1, d.log ++ (d.negotiation.answer call).2⟩

def run (d : Dialogue) (calls : List Call) : Dialogue := calls.foldl step d

theorem run_concat (d : Dialogue) (calls : List Call) (call : Call) :
    d.run (calls ++ [call]) = (d.run calls).step call :=
  List.foldl_append ..

/-- Credentials are awaited only in the stage that is named for them. Once they were asked for,
they are queued before the request for the tunnel, and no reply leads to the stage of the request
without them. -/
structure InOrder (d : Dialogue) : Prop where
  awaiting : d.negotiation.awaiting = true → d.negotiation.stage = .v5 .userPassword
  request : ∀ before frame after, d.log = before ++ .request frame :: after →
    .prompted ∈ before → ∃ answer, .credentials answer ∈ before
  credentials : ∀ before answer after, d.log = before ++ .credentials answer :: after →
    ∀ frame, .request frame ∉ before
  connect : d.negotiation.stage = .v5 .connect → .prompted ∈ d.log →
    ∃ answer, .credentials answer ∈ d.log

end Dialogue

/-- A reply accepts credentials that are still awaited, and the request for the tunnel can be
queued. -/
def Call.Premature (n : Negotiation) : Call → Prop
  | reply _ input output => n.awaiting = true ∧ (∃ first rest, input.bytes = first :: 0 :: rest) ∧
    ∃ outbound, (Frame.connectByName n.host n.port >>= output.append) = .ok outbound
  | submit .. => False

namespace Negotiation

variable {canPrompt : Bool} {n : Negotiation} {bs : Bytes}

theorem exists_of_reactUserPassword_eq_request (h : n.reactUserPassword bs = .request) :
    ∃ first rest, bs = first :: 0 :: rest := by
  unfold reactUserPassword at h
  split at h
  · next first code rest =>
    split at h
    · cases h
    · next hcode => exact ⟨first, rest, by rw [Decidable.not_not.1 hcode]⟩
  · cases h

theorem stage_of_react_eq_request (h : n.react canPrompt bs = .request) :
    n.stage = .v5 .methods ∨
      n.stage = .v5 .userPassword ∧ ∃ first rest, bs = first :: 0 :: rest := by
  have hasked := (of_react_eq_request h).1
  unfold react at h
  split at h
  · next hstage =>
    rw [hstage] at hasked
    cases hasked
  · next hstage => exact .inl hstage
  · next hstage => exact .inr ⟨hstage, exists_of_reactUserPassword_eq_request h⟩
  · next hstage =>
    rw [hstage] at hasked
    cases hasked

theorem exists_frame_of_queued {output outbound : ByteQueue}
    (h : (Frame.connectByName n.host n.port >>= output.append) = .ok outbound) :
    ∃ frame, frame ≠ [] ∧ outbound.bytes = output.bytes ++ frame := by
  cases hframe : Frame.connectByName n.host n.port with
  | error f =>
    rw [hframe] at h
    cases h
  | ok frame =>
    rw [hframe] at h
    refine ⟨frame, ?_, ByteQueue.bytes_append h⟩
    rintro rfl
    unfold Frame.connectByName at hframe
    split at hframe <;> cases hframe

theorem answer_reply_cases (canPrompt : Bool) (n : Negotiation) (input output : ByteQueue) :
    n.answer (.reply canPrompt input output) = (n, []) ∨
      n.stage = .v5 .methods ∧ n.answer (.reply canPrompt input output) =
        ({ n with stage := .v5 .userPassword, awaiting := true }, [.prompted]) ∨
      ∃ frame outbound, (Frame.connectByName n.host n.port >>= output.append) = .ok outbound ∧
        (n.stage = .v5 .methods ∨
          n.stage = .v5 .userPassword ∧ ∃ first rest, input.bytes = first :: 0 :: rest) ∧
        n.answer (.reply canPrompt input output) = (n.asking, [.request frame]) := by
  unfold answer
  dsimp only
  rw [Exchange.step_eq_follow]
  cases hreact : n.react canPrompt input.bytes with
  | wait => exact .inl (by simp [Exchange.follow, ByteQueue.length])
  | refuse taken cause =>
    exact .inl (by simp [Exchange.follow, Exchange.skip, ByteQueue.length])
  | grant taken => exact .inl (by simp [Exchange.follow, Exchange.skip, ByteQueue.length])
  | prompt =>
    refine .inr (.inl ⟨(of_react_eq_prompt hreact).1, ?_⟩)
    simp [Exchange.follow, Exchange.skip, ByteQueue.length]
  | request =>
    cases hqueued : Frame.connectByName n.host n.port >>= output.append with
    | error f =>
      have herror := Exchange.requestTunnel_of_error
        (x := (Exchange.mk n input output).skip 2) hqueued
      refine .inl ?_
      unfold Exchange.follow
      rw [herror]
      simp [Exchange.skip, ByteQueue.length]
    | ok outbound =>
      have hok := Exchange.requestTunnel_of_ok
        (x := (Exchange.mk n input output).skip 2) hqueued
      obtain ⟨frame, hframe, hbytes⟩ := exists_frame_of_queued hqueued
      refine .inr (.inr ⟨frame, outbound, rfl, stage_of_react_eq_request hreact, ?_⟩)
      unfold Exchange.follow
      rw [hok]
      dsimp only
      rw [hbytes, ByteQueue.length, List.drop_left, if_neg hframe]
      rfl

theorem answer_submit_cases (n : Negotiation) (user password : String) (output : ByteQueue) :
    n.answer (.submit user password output) = (n, []) ∨
      n.awaiting = true ∧ ∃ frame, n.answer (.submit user password output) =
        ({ n with awaiting := false }, [.credentials frame]) := by
  unfold answer
  dsimp only
  cases h : n.awaiting with
  | false =>
    rw [Exchange.submit_of_not_awaiting user password h]
    simp [ByteQueue.length]
  | true =>
    rcases Exchange.submit_of_awaiting (x := ⟨n, .forReading, output⟩) user password h with
      ⟨f, -, hf⟩ | ⟨frame, outbound, hframe, hout, hok⟩
    · rw [hf]
      simp [ByteQueue.length]
    · rw [hok]
      dsimp only
      have hnonempty : frame ≠ [] := by
        rintro rfl
        unfold Frame.credentials at hframe
        split at hframe <;> cases hframe
      rw [ByteQueue.bytes_append hout, ByteQueue.length, List.drop_left, if_neg hnonempty]
      exact .inr ⟨rfl, frame, rfl⟩

end Negotiation

inductive Orderly : Negotiation → List Utterance → Prop
  | opened {n : Negotiation} : n.stage = .v5 .methods → n.awaiting = false → Orderly n []
  | prompted {n : Negotiation} : n.stage = .v5 .userPassword → n.awaiting = true →
      Orderly n [.prompted]
  | answered {n : Negotiation} {answer : Bytes} : n.stage = .v5 .userPassword →
      n.awaiting = false → Orderly n [.prompted, .credentials answer]
  | asked {n : Negotiation} {frame : Bytes} : n.stage = .v5 .connect → n.awaiting = false →
      Orderly n [.request frame]
  | askedLast {n : Negotiation} {answer frame : Bytes} : n.stage = .v5 .connect →
      n.awaiting = false → Orderly n [.prompted, .credentials answer, .request frame]

theorem Orderly.inOrder {d : Dialogue} (h : Orderly d.negotiation d.log) : d.InOrder := by
  obtain ⟨n, log⟩ := d
  constructor
  case awaiting =>
    cases h <;> simp_all
  case request =>
    intro before frame after hlog hprompted
    cases h <;> simp only [List.nil_eq_append_iff, List.cons_eq_append_iff] at hlog <;> grind
  case credentials =>
    intro before answer after hlog frame
    cases h <;> simp only [List.nil_eq_append_iff, List.cons_eq_append_iff] at hlog <;> grind
  case connect =>
    cases h <;> simp_all

theorem Orderly.step {d : Dialogue} (h : Orderly d.negotiation d.log) {call : Call}
    (hcall : ¬call.Premature d.negotiation) :
    Orderly (d.step call).negotiation (d.step call).log := by
  obtain ⟨n, log⟩ := d
  change Orderly (n.answer call).1 (log ++ (n.answer call).2)
  cases call with
  | reply canPrompt input output =>
    rcases n.answer_reply_cases canPrompt input output with
      hsame | ⟨hstage, hprompt⟩ | ⟨frame, outbound, hout, hstage, hrequest⟩
    · rw [hsame, List.append_nil]
      exact h
    · rw [hprompt]
      cases h with
      | opened => exact .prompted rfl rfl
      | prompted hother | answered hother | asked hother | askedLast hother =>
        exact nomatch hstage.symm.trans hother
    · rw [hrequest]
      cases h with
      | opened hmethods hawaiting => exact .asked rfl hawaiting
      | prompted huser hawaiting =>
        -- without the user's answer such a reply is premature
        rcases hstage with hmethods | ⟨-, haccepts⟩
        · exact nomatch hmethods.symm.trans huser
        · exact absurd ⟨hawaiting, haccepts, outbound, hout⟩ hcall
      | answered huser hawaiting => exact .askedLast rfl hawaiting
      | asked hconnect | askedLast hconnect =>
        rcases hstage with hother | ⟨hother, -⟩ <;> exact nomatch hother.symm.trans hconnect
  | submit user password output =>
    rcases n.answer_submit_cases user password output with hsame | ⟨hawaiting, frame, hsubmit⟩
    · rw [hsame, List.append_nil]
      exact h
    · rw [hsubmit]
      cases h with
      | prompted hstage => exact .answered hstage rfl
      | opened _ hnot | answered _ hnot | asked _ hnot | askedLast _ hnot =>
        exact nomatch hnot.symm.trans hawaiting

theorem Orderly.run {calls : List Call} {d : Dialogue} (h : Orderly d.negotiation d.log)
    (hcalls : ∀ before call, before ++ [call] <+: calls →
      ¬call.Premature (d.run before).negotiation) :
    Orderly (d.run calls).negotiation (d.run calls).log := by
  induction calls generalizing d with
  | nil => exact h
  | cons call calls ih =>
    have hfirst : ¬call.Premature d.negotiation := hcalls [] call ⟨calls, rfl⟩
    refine ih (h.step hfirst) fun before next hbefore => ?_
    exact hcalls (call :: before) next (List.cons_prefix_cons.2 ⟨rfl, hbefore⟩)

theorem Call.Premature.not_inOrder {d : Dialogue} {call : Call} (h : d.InOrder)
    (hcall : call.Premature d.negotiation) : ¬(d.step call).InOrder := by
  intro hnext
  obtain ⟨n, log⟩ := d
  cases call with
  | submit user password output => exact hcall
  | reply canPrompt input output =>
    obtain ⟨hawaiting, ⟨first, rest, hbytes⟩, outbound, hout⟩ := hcall
    have hstep : (Exchange.mk n input output).step canPrompt =
        (.ok .needMore, ⟨n.asking, input.discard 2, outbound⟩) := by
      unfold Exchange.step Exchange.stepUserPassword
      dsimp only
      rw [h.awaiting hawaiting, hbytes]
      exact Exchange.requestTunnel_of_ok (x := (Exchange.mk n input output).skip 2) hout
    have hanswer : (n.answer (.reply canPrompt input output)).1 = n.asking := by
      dsimp only [Negotiation.answer]
      rw [hstep]
    have hstage := hnext.awaiting
    change (n.answer (.reply canPrompt input output)).1.awaiting = true → _ at hstage
    change _ → (n.answer (.reply canPrompt input output)).1.stage = _ at hstage
    rw [hanswer] at hstage
    exact nomatch hstage hawaiting

/-- Credentials and the request for the tunnel keep their order as long as no reply is premature,
and only so long. -/
theorem Dialogue.inOrder_iff {lookup : NameLookup} {me : LocalUser} {server : Server}
    {host : String} {port : UInt16} {offer : Bool} {out out' : ByteQueue} {n : Negotiation}
    (hversion : server.version = .v5)
    (hstart : Negotiation.start lookup me server host port offer out = .ok (n, out'))
    (calls : List Call) :
    (∀ before, before <+: calls → (run ⟨n, []⟩ before).InOrder) ↔
      ∀ before call, before ++ [call] <+: calls →
        ¬call.Premature (run ⟨n, []⟩ before).negotiation := by
  have hopened : Orderly n [] := by
    obtain ⟨frame, -, -, ⟨-, rfl⟩ | ⟨hother, -⟩⟩ := Negotiation.start_cases hstart
    · exact .opened rfl rfl
    · exact nomatch hversion.symm.trans hother
  constructor
  · intro h before call hbefore hcall
    have hprefix : before <+: calls := (List.prefix_append ..).trans hbefore
    have hnext := h _ hbefore
    rw [run_concat] at hnext
    exact hcall.not_inOrder (h before hprefix) hnext
  · intro h before hbefore
    have horderly := Orderly.run (d := ⟨n, []⟩) hopened fun earlier call hearlier =>
      h earlier call (hearlier.trans hbefore)
    exact horderly.inOrder

set_option maxRecDepth 4000 in
theorem start_offering (me : LocalUser) : Negotiation.start (fun _ => .error .hostNotFound) me
    { name := "p", port := 1080, version := .v5 } "host" 80 true .forWriting =
      .ok ({ stage := .v5 .methods, host := "host", port := 80 },
        ⟨[5, 2, 0, 2], List.replicate 252 0, 65536⟩) := by cbv

theorem Dialogue.inOrder_of_patient_proxy :
    let n : Negotiation := { stage := .v5 .methods, host := "host", port := 80 }
    let calls : List Call := [.reply true ⟨[5, 2], [], 32768⟩ .forWriting,
      .submit "user" "word" .forWriting, .reply true ⟨[1, 0], [], 32768⟩ .forWriting]
    (run ⟨n, []⟩ calls).log = [.prompted,
      .credentials [1, 4, 117, 115, 101, 114, 4, 119, 111, 114, 100],
      .request [5, 1, 0, 3, 4, 104, 111, 115, 116, 0, 80]] ∧
    ∀ before, before <+: calls → (run ⟨n, []⟩ before).InOrder := by
  intro n calls
  refine ⟨by decide +kernel, (inOrder_iff rfl (start_offering ⟨0, none⟩) calls).2 ?_⟩
  rintro (_ | ⟨first, _ | ⟨second, _ | ⟨third, before⟩⟩⟩) call hbefore
  · obtain ⟨rfl, -⟩ := List.cons_prefix_cons.1 hbefore
    exact fun hcall => nomatch hcall.1
  · simp only [calls, List.cons_append, List.nil_append, List.cons_prefix_cons] at hbefore
    obtain ⟨rfl, rfl, -⟩ := hbefore
    exact id
  · simp only [calls, List.cons_append, List.nil_append, List.cons_prefix_cons] at hbefore
    obtain ⟨rfl, rfl, rfl, -⟩ := hbefore
    exact fun hcall => absurd hcall.1 (by decide +kernel)
  · simp [calls, List.cons_prefix_cons] at hbefore

/-- The proxy accepts the credentials that it has asked for before the user gives them. -/
theorem Dialogue.not_inOrder_of_hasty_proxy :
    let n : Negotiation := { stage := .v5 .methods, host := "host", port := 80 }
    let calls : List Call := [.reply true ⟨[5, 2], [], 32768⟩ .forWriting,
      .reply true ⟨[1, 0], [], 32768⟩ .forWriting, .submit "user" "word" .forWriting]
    (run ⟨n, []⟩ calls).log = [.prompted, .request [5, 1, 0, 3, 4, 104, 111, 115, 116, 0, 80],
      .credentials [1, 4, 117, 115, 101, 114, 4, 119, 111, 114, 100]] ∧
    ¬(run ⟨n, []⟩ (calls.take 2)).InOrder ∧ ¬(run ⟨n, []⟩ calls).InOrder := by
  intro n calls
  have hlog : (run ⟨n, []⟩ calls).log = [.prompted,
      .request [5, 1, 0, 3, 4, 104, 111, 115, 116, 0, 80],
      .credentials [1, 4, 117, 115, 101, 114, 4, 119, 111, 114, 100]] := by decide +kernel
  refine ⟨hlog, fun h => ?_, fun h => ?_⟩
  · exact absurd (h.awaiting (by decide +kernel)) (by decide +kernel)
  · exact h.credentials [.prompted, .request _] _ [] hlog _
      (List.mem_cons_of_mem _ List.mem_cons_self)

end LineTunnel.Socks
