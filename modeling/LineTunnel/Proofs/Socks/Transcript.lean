import LineTunnel.Proofs.Socks.Dialogue

/-! The transcript of a negotiation: every call since it was started, with what came of it. Whoever
calls, and whatever the proxy says, the stages go forward, credentials are queued once at most and
only after they were asked for, and the request for the tunnel is queued in the one call that goes
on to await its reply. -/

namespace LineTunnel.Socks

structure Entry where
  before : Negotiation
  call : Call
  answer : Except Failure (Option Progress)
  after : Exchange

def Call.output : Call → ByteQueue
  | reply _ _ output => output
  | submit _ _ output => output

def Negotiation.entry (n : Negotiation) : Call → Entry
  | .reply canPrompt input output =>
    let (result, after) := (Exchange.mk n input output).step canPrompt
    ⟨n, .reply canPrompt input output, result.map some, after⟩
  | .submit user password output =>
    let (result, after) := (Exchange.mk n .forReading output).submit user password
    ⟨n, .submit user password output, result.map fun _ => none, after⟩

def Negotiation.transcript (n : Negotiation) : List Call → List Entry
  | [] => []
  | call :: calls => n.entry call :: (n.entry call).after.negotiation.transcript calls

def Stage.rank : Stage → Nat
  | v4 => 0
  | v5 .methods => 0
  | v5 .userPassword => 1
  | v5 .connect => 2

theorem Stage.rank_le (stage : Stage) : stage.rank ≤ 2 := by
  cases stage with
  | v4 => decide
  | v5 stage => cases stage <;> decide

namespace Entry

def queued (e : Entry) : Bytes := e.after.outbound.bytes.drop e.call.output.length

def Prompts (e : Entry) : Prop :=
  ∃ input output rest, e.call = .reply true input output ∧ input.bytes = 5 :: 2 :: rest ∧
    e.after.inbound.bytes = rest ∧ e.answer = .ok (some .credentialsRequested)

def Answers (e : Entry) : Prop :=
  ∃ user password output, e.call = .submit user password output ∧
    Frame.credentials user password = .ok e.queued

end Entry

/-- All that a call can do to a negotiation. -/
inductive Negotiation.Acts (n : Negotiation) (e : Entry) : Prop
  | idles : e.after.negotiation = n → e.after.outbound = e.call.output →
      e.answer ≠ .ok (some .credentialsRequested) →
      (e.answer = .ok (some .connected) → n.stage.hasAsked = true) → Acts n e
  | prompts : n.stage = .v5 .methods → e.Prompts →
      e.after.negotiation = { n with stage := .v5 .userPassword, awaiting := true } →
      e.after.outbound = e.call.output → Acts n e
  | asks {frame : Bytes} : n.stage.hasAsked = false →
      Frame.connectByName n.host n.port = .ok frame → e.after.negotiation = n.asking →
      e.after.outbound.bytes = e.call.output.bytes ++ frame → e.answer = .ok (some .needMore) →
      Acts n e
  | answers {user password : String} {output : ByteQueue} {frame : Bytes} : n.awaiting = true →
      e.call = .submit user password output → Frame.credentials user password = .ok frame →
      e.after.negotiation = { n with awaiting := false } →
      e.after.outbound.bytes = e.call.output.bytes ++ frame → e.answer = .ok none → Acts n e

namespace Negotiation

theorem bytes_of_react_eq_prompt {canPrompt : Bool} {n : Negotiation} {bs : Bytes}
    (h : n.react canPrompt bs = .prompt) : ∃ rest, bs = 5 :: 2 :: rest := by
  have hstage := (of_react_eq_prompt h).1
  unfold react reactMethods at h
  rw [hstage] at h
  dsimp only at h
  split at h
  · next version method rest =>
    split at h
    · cases h
    · next hversion =>
      split at h
      · exact absurd h n.reactRequest_ne_prompt
      split at h
      · next hmethod => exact ⟨rest, by rw [Decidable.not_not.1 hversion, hmethod.1]; rfl⟩
      · cases h
  · cases h

theorem reply_acts (n : Negotiation) (canPrompt : Bool) (input output : ByteQueue) :
    n.Acts (n.entry (.reply canPrompt input output)) := by
  obtain ⟨taken, hmoved⟩ := Exchange.moved_step canPrompt ⟨n, input, output⟩
  unfold entry
  dsimp only
  rw [Exchange.step_eq_follow] at hmoved ⊢
  dsimp only at hmoved ⊢
  cases hreact : n.react canPrompt input.bytes with
  | wait => exact .idles rfl rfl nofun nofun
  | refuse taken cause => exact .idles rfl rfl nofun nofun
  | grant taken =>
    rw [hreact] at hmoved
    exact .idles rfl rfl nofun fun _ => hmoved.ended rfl
  | prompt =>
    obtain ⟨hstage, rfl⟩ := of_react_eq_prompt hreact
    obtain ⟨rest, hbytes⟩ := bytes_of_react_eq_prompt hreact
    refine .prompts hstage ⟨input, output, rest, rfl, hbytes, ?_, rfl⟩ rfl rfl
    change input.bytes.drop 2 = rest
    rw [hbytes]
    rfl
  | request =>
    have hasked := (of_react_eq_request hreact).1
    unfold Exchange.follow
    cases hqueued : Frame.connectByName n.host n.port >>= output.append with
    | error f =>
      rw [Exchange.requestTunnel_of_error (x := (Exchange.mk n input output).skip 2) hqueued]
      exact .idles rfl rfl nofun nofun
    | ok outbound =>
      rw [Exchange.requestTunnel_of_ok (x := (Exchange.mk n input output).skip 2) hqueued]
      obtain ⟨frame, hframe, happend⟩ := exists_of_bind_eq_ok hqueued
      exact .asks hasked hframe rfl (ByteQueue.bytes_append happend) rfl

theorem submit_acts (n : Negotiation) (user password : String) (output : ByteQueue) :
    n.Acts (n.entry (.submit user password output)) := by
  unfold entry
  dsimp only
  cases hawaiting : n.awaiting with
  | false =>
    rw [Exchange.submit_of_not_awaiting user password hawaiting]
    exact .idles rfl rfl nofun nofun
  | true =>
    rcases Exchange.submit_of_awaiting (x := ⟨n, .forReading, output⟩) user password hawaiting with
      ⟨f, -, herror⟩ | ⟨frame, outbound, hframe, hout, hok⟩
    · rw [herror]
      exact .idles rfl rfl nofun nofun
    · rw [hok]
      exact .answers hawaiting rfl hframe rfl (ByteQueue.bytes_append hout) rfl

theorem entry_acts (n : Negotiation) (call : Call) : n.Acts (n.entry call) := by
  cases call with
  | reply canPrompt input output => exact n.reply_acts canPrompt input output
  | submit user password output => exact n.submit_acts user password output

@[simp] theorem before_entry (n : Negotiation) (call : Call) : (n.entry call).before = n := by
  cases call <;> rfl

end Negotiation

namespace Entry

variable {e : Entry} {frame : Bytes}

theorem queued_of_eq (h : e.after.outbound = e.call.output) : e.queued = [] := by
  unfold queued
  rw [h]
  exact List.drop_length

theorem queued_of_append (h : e.after.outbound.bytes = e.call.output.bytes ++ frame) :
    e.queued = frame := by
  unfold queued
  rw [h, ByteQueue.length, List.drop_left]

end Entry

structure Negotiation.Aims (n : Negotiation) (host : String) (port : UInt16) : Prop where
  host : n.host = host
  port : n.port = port
  version : n.stage.version = .v5
  prompted : n.awaiting = true → n.stage ≠ .v5 .methods

inductive Frames (host : String) (port : UInt16) : Bool → Bool → List Bytes → Prop
  | nothing {credentials request : Bool} : Frames host port credentials request []
  | credentials {request : Bool} {user password : String} {frame : Bytes} {rest : List Bytes} :
      Frame.credentials user password = .ok frame → Frames host port false request rest →
      Frames host port true request (frame :: rest)
  | request {credentials : Bool} {frame : Bytes} {rest : List Bytes} :
      Frame.connectByName host port = .ok frame → Frames host port credentials false rest →
      Frames host port credentials true (frame :: rest)

def frames (es : List Entry) : List Bytes := (es.map Entry.queued).filter (· ≠ [])

theorem frames_cons_of_eq {e : Entry} (h : e.queued = []) (es : List Entry) :
    frames (e :: es) = frames es := by
  simp [frames, h]

theorem frames_cons_of_ne {e : Entry} {frame : Bytes} (h : e.queued = frame) (hframe : frame ≠ [])
    (es : List Entry) : frames (e :: es) = frame :: frames es := by
  simp [frames, h, hframe]

theorem flatten_frames (es : List Entry) : (frames es).flatten = es.flatMap Entry.queued := by
  induction es with
  | nil => rfl
  | cons e es ih =>
    by_cases h : e.queued = []
    · rw [frames_cons_of_eq h, ih, List.flatMap_cons, h, List.nil_append]
    · rw [frames_cons_of_ne rfl h, List.flatten_cons, ih, List.flatMap_cons]

theorem Frames.mono {host : String} {port : UInt16} {credentials credentials' request : Bool}
    {list : List Bytes} (h : Frames host port credentials request list)
    (hmore : credentials = true → credentials' = true) :
    Frames host port credentials' request list := by
  induction h with
  | nothing => exact .nothing
  | credentials hframe hrest =>
    rw [hmore rfl]
    exact .credentials hframe hrest
  | request hframe hrest ih => exact .request hframe (ih hmore)

namespace Negotiation

variable {host : String} {port : UInt16} {n : Negotiation}

theorem stage_eq_connect (hversion : n.stage.version = .v5) (h : n.stage.hasAsked = true) :
    n.stage = .v5 .connect := by
  cases hstage : n.stage with
  | v4 =>
    rw [hstage] at hversion
    cases hversion
  | v5 stage =>
    rw [hstage] at h
    cases stage with
    | methods | userPassword => cases h
    | connect => rfl

theorem Aims.entry (h : n.Aims host port) (call : Call) :
    (n.entry call).after.negotiation.Aims host port := by
  cases n.entry_acts call with
  | idles hsame =>
    rw [hsame]
    exact h
  | prompts hstage hprompts hafter =>
    rw [hafter]
    exact ⟨h.host, h.port, rfl, fun _ => nofun⟩
  | asks hasked hframe hafter =>
    rw [hafter]
    exact ⟨h.host, h.port, rfl, fun _ => nofun⟩
  | answers hawaiting hcall hframe hafter =>
    rw [hafter]
    exact ⟨h.host, h.port, h.version, nofun⟩

theorem transcript_induction {P : Negotiation → Prop}
    (hkept : ∀ n call, P n → P (n.entry call).after.negotiation) (h : P n) (calls : List Call) :
    ∀ e ∈ n.transcript calls, P e.before ∧ ∃ call, e = e.before.entry call := by
  induction calls generalizing n with
  | nil =>
    intro e he
    cases he
  | cons call calls ih =>
    intro e he
    rcases List.mem_cons.1 he with rfl | hrest
    · rw [before_entry]
      exact ⟨h, call, rfl⟩
    · exact ih (hkept n call h) e hrest

theorem acts_of_mem (calls : List Call) : ∀ e ∈ n.transcript calls, e.before.Acts e := by
  intro e he
  obtain ⟨-, call, hcall⟩ := transcript_induction (P := fun _ => True) (fun _ _ => id) trivial
    calls e he
  rw [hcall, before_entry]
  exact e.before.entry_acts call

theorem rank_le_entry (n : Negotiation) (call : Call) :
    n.stage.rank ≤ (n.entry call).after.negotiation.stage.rank := by
  cases n.entry_acts call with
  | idles hsame => simp only [hsame, Nat.le_refl]
  | prompts hstage =>
    rw [hstage]
    exact Nat.zero_le _
  | asks hasked hframe hafter =>
    rw [hafter]
    exact n.stage.rank_le
  | answers hawaiting hcall hframe hafter => simp only [hafter, Nat.le_refl]

theorem frames_transcript (h : n.Aims host port) (calls : List Call) :
    Frames host port (n.awaiting || n.stage == .v5 .methods) (!n.stage.hasAsked)
      (frames (n.transcript calls)) := by
  induction calls generalizing n with
  | nil => exact .nothing
  | cons call calls ih =>
    have hrest := ih (h.entry call)
    cases n.entry_acts call with
    | idles hsame hqueued =>
      rw [hsame] at hrest
      rw [transcript, frames_cons_of_eq (Entry.queued_of_eq hqueued), hsame]
      exact hrest
    | prompts hstage hprompts hafter hqueued =>
      rw [hafter] at hrest
      rw [transcript, frames_cons_of_eq (Entry.queued_of_eq hqueued), hafter, hstage,
        beq_self_eq_true, Bool.or_true]
      exact hrest
    | asks hasked hframe hafter hqueued =>
      rw [hafter] at hrest
      obtain ⟨_, hfirst⟩ := Frame.exists_of_connectByName hframe
      rw [transcript, frames_cons_of_ne (Entry.queued_of_append hqueued)
        (hfirst ▸ List.cons_ne_nil _ _), hafter, hasked]
      rw [h.host, h.port] at hframe
      exact .request hframe (hrest.mono (by simp +contextual [asking]))
    | answers hawaiting hcall hframe hafter hqueued =>
      obtain ⟨_, hfirst⟩ := Frame.exists_of_credentials hframe
      have hmethods : (n.stage == .v5 .methods) = false := by
        simpa using h.prompted hawaiting
      rw [hafter, Bool.false_or, hmethods] at hrest
      rw [transcript, frames_cons_of_ne (Entry.queued_of_append hqueued)
        (hfirst ▸ List.cons_ne_nil _ _), hafter, hawaiting, Bool.true_or]
      exact .credentials hframe hrest

theorem exists_prompts (hawaiting : n.awaiting = false) {calls : List Call}
    {earlier later : List Entry} {e : Entry} (h : n.transcript calls = earlier ++ e :: later)
    (he : e.before.awaiting = true) : ∃ p ∈ earlier, p.Prompts := by
  induction calls generalizing n earlier with
  | nil => simp [transcript] at h
  | cons call calls ih =>
    cases earlier with
    | nil =>
      obtain ⟨rfl, -⟩ := List.cons.inj h
      rw [before_entry, hawaiting] at he
      cases he
    | cons first earlier =>
      obtain ⟨rfl, hrest⟩ := List.cons.inj h
      have hlater (hstill : (n.entry call).after.negotiation.awaiting = false) :
          ∃ p ∈ n.entry call :: earlier, p.Prompts := by
        obtain ⟨p, hp, hprompts⟩ := ih hstill hrest
        exact ⟨p, List.mem_cons_of_mem _ hp, hprompts⟩
      cases n.entry_acts call with
      | idles hsame => exact hlater (by rw [hsame, hawaiting])
      | prompts hstage hprompts => exact ⟨_, List.mem_cons_self, hprompts⟩
      | asks hasked hframe hafter => exact hlater (by rw [hafter]; exact hawaiting)
      | answers hother => exact nomatch hawaiting.symm.trans hother

theorem pairwise_rank (n : Negotiation) (calls : List Call) : (n.transcript calls).Pairwise
    fun e e' => e.after.negotiation.stage.rank ≤ e'.before.stage.rank := by
  induction calls generalizing n with
  | nil => exact .nil
  | cons call calls ih =>
    refine List.pairwise_cons.2 ⟨fun e he => ?_, ih _⟩
    let first := (n.entry call).after.negotiation
    exact (transcript_induction (P := fun m => first.stage.rank ≤ m.stage.rank)
      (fun m call hm => Nat.le_trans hm (m.rank_le_entry call)) (Nat.le_refl _) calls e he).1

end Negotiation

namespace Negotiation.Acts

variable {e : Entry}

theorem prompts_of_answer (h : e.before.Acts e) (ha : e.answer = .ok (some .credentialsRequested)) :
    e.before.stage = .v5 .methods ∧ e.Prompts ∧
      e.after.negotiation.stage = .v5 .userPassword := by
  cases h with
  | idles hsame hqueued hother => exact absurd ha hother
  | prompts hstage hprompts hafter =>
    refine ⟨hstage, hprompts, ?_⟩
    rw [hafter]
  | asks hasked hframe hafter hqueued hanswer => exact nomatch hanswer.symm.trans ha
  | answers hawaiting hcall hframe hafter hqueued hanswer => exact nomatch hanswer.symm.trans ha

theorem answers_of_credentials (h : e.before.Acts e) {user password : String}
    (hframe : Frame.credentials user password = .ok e.queued) :
    e.Answers ∧ e.before.awaiting = true := by
  obtain ⟨rest, hfirst⟩ := Frame.exists_of_credentials hframe
  cases h with
  | idles hsame hqueued | prompts hstage hprompts hafter hqueued =>
    rw [Entry.queued_of_eq hqueued] at hfirst
    cases hfirst
  | asks hasked hother hafter hqueued =>
    obtain ⟨rest', hother⟩ := Frame.exists_of_connectByName hother
    rw [Entry.queued_of_append hqueued, hother] at hfirst
    cases hfirst
  | @answers user password output frame hawaiting hcall hframe hafter hqueued =>
    refine ⟨⟨user, password, output, hcall, ?_⟩, hawaiting⟩
    rw [Entry.queued_of_append hqueued]
    exact hframe

theorem appended (h : e.before.Acts e) :
    e.after.outbound.bytes = e.call.output.bytes ++ e.queued := by
  cases h with
  | idles hsame hqueued | prompts hstage hprompts hafter hqueued =>
    rw [Entry.queued_of_eq hqueued, hqueued, List.append_nil]
  | asks hasked hframe hafter hqueued | answers hawaiting hcall hframe hafter hqueued =>
    rw [Entry.queued_of_append hqueued, hqueued]

theorem connectByName_iff {host : String} {port : UInt16} (h : e.before.Acts e)
    (haims : e.before.Aims host port) : Frame.connectByName host port = .ok e.queued ↔
      e.before.stage ≠ .v5 .connect ∧ e.after.negotiation.stage = .v5 .connect := by
  cases h with
  | idles hsame hqueued =>
    rw [Entry.queued_of_eq hqueued, hsame]
    refine ⟨fun hframe => ?_, fun hstage => absurd hstage.2 hstage.1⟩
    obtain ⟨rest, hfirst⟩ := Frame.exists_of_connectByName hframe
    cases hfirst
  | prompts hstage hprompts hafter hqueued =>
    rw [Entry.queued_of_eq hqueued, hafter]
    refine ⟨fun hframe => ?_, nofun⟩
    obtain ⟨rest, hfirst⟩ := Frame.exists_of_connectByName hframe
    cases hfirst
  | asks hasked hframe hafter hqueued =>
    rw [Entry.queued_of_append hqueued, hafter, ← haims.host, ← haims.port]
    refine ⟨fun _ => ⟨fun hstage => ?_, rfl⟩, fun _ => hframe⟩
    rw [hstage] at hasked
    cases hasked
  | answers hawaiting hcall hframe hafter hqueued =>
    rw [Entry.queued_of_append hqueued, hafter]
    refine ⟨fun hother => ?_, fun hstage => absurd hstage.2 hstage.1⟩
    obtain ⟨rest, hfirst⟩ := Frame.exists_of_credentials hframe
    obtain ⟨rest', hother⟩ := Frame.exists_of_connectByName hother
    cases hfirst.symm.trans hother

theorem stage_of_connected (h : e.before.Acts e) (hversion : e.before.stage.version = .v5)
    (ha : e.answer = .ok (some .connected)) : e.before.stage = .v5 .connect := by
  cases h with
  | idles hsame hqueued hother hconnected =>
    exact Negotiation.stage_eq_connect hversion (hconnected ha)
  | prompts hstage hprompts =>
    obtain ⟨input, output, rest, -, -, -, hanswer⟩ := hprompts
    exact nomatch hanswer.symm.trans ha
  | asks hasked hframe hafter hqueued hanswer => exact nomatch hanswer.symm.trans ha
  | answers hawaiting hcall hframe hafter hqueued hanswer => exact nomatch hanswer.symm.trans ha

end Negotiation.Acts

/-- What a version 5 negotiation for a tunnel to this target keeps to. -/
structure Disciplined (host : String) (port : UInt16) (es : List Entry) : Prop where
  appended : ∀ e ∈ es, e.after.outbound.bytes = e.call.output.bytes ++ e.queued
  frames : ∃ list, Frames host port true true list ∧ es.flatMap Entry.queued = list.flatten
  credentials : ∀ earlier e later, es = earlier ++ e :: later →
    (∃ user password, Frame.credentials user password = .ok e.queued) →
    e.Answers ∧ ∃ p ∈ earlier, p.Prompts
  promptedOnce : es.Pairwise fun e e' => e.answer = .ok (some .credentialsRequested) →
    e'.answer ≠ .ok (some .credentialsRequested)
  request : ∀ e ∈ es, Frame.connectByName host port = .ok e.queued ↔
    e.before.stage ≠ .v5 .connect ∧ e.after.negotiation.stage = .v5 .connect
  version : ∀ e ∈ es, e.before.stage.version = .v5 ∧ e.after.negotiation.stage.version = .v5
  forward : ∀ e ∈ es, e.before.stage.rank ≤ e.after.negotiation.stage.rank
  onward : es.Pairwise fun e e' => e.after.negotiation.stage.rank ≤ e'.before.stage.rank
  connected : ∀ e ∈ es, e.answer = .ok (some .connected) → e.before.stage = .v5 .connect

/-- Whatever the proxy says and whoever calls, with whatever is in the queues and whether or not
the calls fail, a negotiation keeps to this from its start on. -/
theorem disciplined_of_start {lookup : NameLookup} {me : LocalUser} {server : Server}
    {host : String} {port : UInt16} {offer : Bool} {out out' : ByteQueue} {n : Negotiation}
    (hversion : server.version = .v5)
    (hstart : Negotiation.start lookup me server host port offer out = .ok (n, out'))
    (calls : List Call) : Disciplined host port (n.transcript calls) := by
  obtain ⟨hopened, hawaiting, haims⟩ : n.stage = .v5 .methods ∧ n.awaiting = false ∧
      n.Aims host port := by
    obtain ⟨frame, -, -, ⟨-, rfl⟩ | ⟨hother, -⟩⟩ := Negotiation.start_cases hstart
    · exact ⟨rfl, rfl, rfl, rfl, rfl, nofun⟩
    · exact nomatch hversion.symm.trans hother
  have hacts := Negotiation.acts_of_mem (n := n) calls
  have hkept := Negotiation.transcript_induction (P := fun n => n.Aims host port)
    (fun _ call h => h.entry call) haims calls
  have honward := n.pairwise_rank calls
  have hafter : ∀ e ∈ n.transcript calls, e.after.negotiation.Aims host port := by
    intro e he
    obtain ⟨hbefore, call, hcall⟩ := hkept e he
    rw [hcall]
    exact hbefore.entry call
  refine {
    appended := fun e he => (hacts e he).appended
    frames := ?frames
    credentials := ?credentials
    promptedOnce := ?promptedOnce
    request := fun e he => (hacts e he).connectByName_iff (hkept e he).1
    version := fun e he => ⟨(hkept e he).1.version, (hafter e he).version⟩
    forward := ?forward
    onward := honward
    connected := fun e he => (hacts e he).stage_of_connected (hkept e he).1.version }
  case frames =>
    have hframes := Negotiation.frames_transcript haims calls
    rw [hopened, hawaiting] at hframes
    exact ⟨_, hframes, (flatten_frames _).symm⟩
  case credentials =>
    rintro earlier e later hes ⟨user, password, hframe⟩
    have he : e ∈ n.transcript calls := by simp [hes]
    obtain ⟨hanswers, hbefore⟩ := (hacts e he).answers_of_credentials hframe
    exact ⟨hanswers, Negotiation.exists_prompts hawaiting hes hbefore⟩
  case promptedOnce =>
    -- a second prompt would need the first stage, and that has passed
    refine honward.imp_of_mem fun he he' hrank hfirst hsecond => ?_
    rw [((hacts _ he).prompts_of_answer hfirst).2.2,
      ((hacts _ he').prompts_of_answer hsecond).1] at hrank
    exact absurd hrank (by decide)
  case forward =>
    intro e he
    obtain ⟨-, call, hcall⟩ := hkept e he
    have hrank := e.before.rank_le_entry call
    rwa [← hcall] at hrank

theorem disciplined_of_start_with_failures :
    let n : Negotiation := { stage := .v5 .methods, host := "host", port := 80 }
    let calls : List Call := [.reply false ⟨[5, 2], [], 32768⟩ .forWriting,
      .reply true ⟨[5, 2, 1], [], 32768⟩ .forWriting, .submit "" "word" .forWriting,
      .submit "user" "word" .forWriting, .reply true ⟨[1, 0], [], 32768⟩ .forWriting,
      .submit "user" "word" .forWriting,
      .reply false ⟨[5, 0, 0, 1, 1, 2, 3, 4, 5, 6, 7], [], 32768⟩ .forWriting]
    (n.transcript calls).map Entry.queued = [[], [], [],
      [1, 4, 117, 115, 101, 114, 4, 119, 111, 114, 100],
      [5, 1, 0, 3, 4, 104, 111, 115, 116, 0, 80], [], []] ∧
    (n.transcript calls).map (·.answer.toOption) = [none, some (some .credentialsRequested), none,
      some none, some (some .needMore), none, some (some .connected)] ∧
    Disciplined "host" 80 (n.transcript calls) := by
  intro n calls
  exact ⟨by decide +kernel, by decide +kernel,
    disciplined_of_start rfl (start_offering ⟨0, none⟩) calls⟩

end LineTunnel.Socks
