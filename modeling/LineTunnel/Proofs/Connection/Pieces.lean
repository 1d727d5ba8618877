import LineTunnel.Proofs.Connection.Completed

/-! It does not matter in which pieces a proxy says what it says, nor when the requests to it go out
in between. Two runs from the same connect that hear the same bytes end alike, since each stands at
any time where the bytes that it has heard so far lead the negotiation. -/

namespace LineTunnel

open Socks (Negotiation Standing)

namespace Socks.Standing

def phase? : Standing → Option Phase
  | waiting n _ => some (.negotiating n)
  | prompting _ => none
  | granted _ => some .connected
  | refused _ => none

end Socks.Standing

namespace Phase

theorem asked_trans {n n' : Negotiation} {p : Phase}
    (h : n' = n ∨ n.stage.hasAsked = false ∧ n' = n.asking)
    (hp : n'.stage.hasAsked = true → p.hasAsked = true) :
    (negotiating n).asked (negotiating n') ++ (negotiating n').asked p =
      (negotiating n).asked p := by
  rcases h with rfl | ⟨hasked, rfl⟩
  · rw [asked_self, List.nil_append]
  · have hasking : (negotiating n.asking).asked p = [] := rfl
    rw [hasking, List.append_nil]
    simp only [asked, negotiation?, hasked, hp rfl]
    rfl

theorem asked_hear {canPrompt : Bool} {n : Negotiation} {heard more : Bytes} {p p' : Phase}
    (h : (n.hear canPrompt heard).phase? = some p)
    (h' : (n.hear canPrompt (heard ++ more)).phase? = some p') :
    (negotiating n).asked p ++ p.asked p' = (negotiating n).asked p' ∧
      (p.hasAsked = true → p'.hasAsked = true) := by
  rw [n.hear_append] at h'
  cases hstanding : n.hear canPrompt heard with
  | waiting n' rest =>
    rw [hstanding] at h h'
    cases h
    have hmono : n'.stage.hasAsked = true → p'.hasAsked = true := by
      intro hasked
      change (n'.hear canPrompt (rest ++ more)).phase? = some p' at h'
      cases hnext : n'.hear canPrompt (rest ++ more) with
      | waiting n'' rest' =>
        rw [hnext] at h'
        cases h'
        rcases Negotiation.of_hear_eq_waiting hnext with rfl | ⟨hnot, -⟩
        · exact hasked
        · exact nomatch hasked.symm.trans hnot
      | granted rest' =>
        rw [hnext] at h'
        cases h'
        rfl
      | prompting rest' | refused f =>
        rw [hnext] at h'
        cases h'
    exact ⟨asked_trans (Negotiation.of_hear_eq_waiting hstanding) hmono, hmono⟩
  | granted rest =>
    rw [hstanding] at h h'
    cases h
    cases h'
    exact ⟨List.append_nil _, id⟩
  | prompting rest | refused f =>
    rw [hstanding] at h
    cases h

end Phase

namespace Connection

variable {σ : Type}

theorem Stands.phase? {c : Connection σ} {standing : Standing} (h : c.Stands standing)
    (hactive : c.isActive = true) : standing.phase? = some c.phase := by
  cases standing with
  | waiting n rest => exact congrArg some h.2.2.1.symm
  | prompting rest => exact h.elim
  | granted rest => exact congrArg some h.2.2.1.symm
  | refused f => exact nomatch h.1.symm.trans hactive

theorem Stands.bytes_inbound {c : Connection σ} {standing : Standing} (h : c.Stands standing)
    (hactive : c.isActive = true) : c.inbound.bytes = standing.rest := by
  cases standing with
  | waiting n rest => exact h.2.2.2
  | prompting rest => exact h.elim
  | granted rest => exact h.2.2.2
  | refused f => exact nomatch h.1.symm.trans hactive

end Connection

namespace Run

variable {σ : Type}

/-- The proxy says these pieces, one after another. Each is read by one service call, and others
that send may come in between, as long as they do not fail. -/
inductive Told [Transport σ] (r : Run σ) : List Bytes → Run σ → Prop
  | start : Told r [] r
  | send {pieces : List Bytes} {r' : Run σ} (f : σ → σ) : Told r pieces r' →
      ((r'.step (.turn f)).connection.service .writing).answer.failure = none →
      Told r pieces ((r'.step (.turn f)).step (.service .writing))
  | piece {pieces : List Bytes} {r' : Run σ} {bs : Bytes} (f : σ → σ) : Told r pieces r' →
      bs ≠ [] → (∀ s, r'.connection.socket = some s → Transport.Holds (f s.stream) bs) →
      Told r (pieces ++ [bs]) ((r'.step (.turn f)).step (.service .reading))

def Requested (r : Run σ) (bs : Bytes) : Prop :=
  r.log.requests = bs ∧ ∃ requests messages, r.socket.accepted = requests ++ messages ∧
    requests ++ r.connection.handshake.bytes = bs ∧
    (r.connection.phase ≠ .connected → messages = [])

/-- Two runs have come to the same end: they stand in the same place of the negotiation, or behind
it with the same bytes for their owner, or they were refused for the same cause. -/
inductive EndAlike (r₁ r₂ : Run σ) : Prop
  | negotiating {n : Negotiation} {rest queued : Bytes} :
      r₁.connection.Stands (.waiting n rest) → r₂.connection.Stands (.waiting n rest) →
      r₁.Requested queued → r₂.Requested queued → EndAlike r₁ r₂
  | connected {rest queued : Bytes} :
      r₁.connection.Stands (.granted rest) → r₂.connection.Stands (.granted rest) →
      r₁.Requested queued → r₂.Requested queued → EndAlike r₁ r₂
  | closed {cause : SocksFailure} :
      r₁.connection.Stands (.refused (.socks cause)) →
      r₂.connection.Stands (.refused (.socks cause)) → EndAlike r₁ r₂

variable {canPrompt : Bool} {n : Negotiation} {base heard more : Bytes} {r r' : Run σ}
  {ready : Readiness}

structure Hears (canPrompt : Bool) (n : Negotiation) (base : Bytes) (r : Run σ) (heard : Bytes) :
    Prop where
  tied : r.Tied
  sound : r.connection.Sound
  prompter : r.connection.prompter.isSome = canPrompt
  stands : r.connection.Stands (n.hear canPrompt heard)
  room : r.connection.isActive = true → r.connection.phase.hasAsked = false →
    r.connection.handshake.length ≤ Socks.Frame.maxMethods
  requests : r.connection.isActive = true →
    r.log.requests = base ++ (Phase.negotiating n).asked r.connection.phase

theorem Hears.hasRoom (h : Hears canPrompt n base r heard) (hactive : r.connection.isActive = true)
    {n' : Negotiation} (hphase : r.connection.phase = .negotiating n') :
    (Socks.Exchange.mk n' r.connection.inbound r.connection.handshake).HasRoom := by
  intro hasked
  have hlength := h.room hactive (by rw [hphase]; exact hasked)
  rw [h.sound.handshake.ceiling_eq]
  exact Nat.le_trans (Nat.add_le_add_right hlength _) (by decide)

theorem Poised.hears (h : r.Poised n) :
    Hears r.connection.prompter.isSome n r.log.requests r [] where
  tied := by
    obtain ⟨f, requests, messages, hsent⟩ := h.sent
    exact hsent.tied
  sound := h.sound
  prompter := rfl
  stands := by
    rw [Negotiation.hear_of_wait (n.react_nil _)]
    exact h.stands
  room _ hasked := by
    rw [h.stands.2.2.1] at hasked
    exact h.handshake hasked
  requests _ := by
    rw [h.stands.2.2.1, Phase.asked_self, List.append_nil]

variable [Transport σ]

theorem requests_service (r : Run σ) (ready : Readiness) :
    (r.step (.service ready)).log.requests = r.log.requests ++
      r.connection.phase.asked (r.step (.service ready)).connection.phase := by
  rw [log_service, Log.requests_append, Log.requests_ofRequest]

theorem length_handshake_service (hr : r.Tied) (ready : Readiness) :
    (r.step (.service ready)).connection.handshake.length ≤ r.connection.handshake.length +
      (r.connection.phase.asked (r.step (.service ready)).connection.phase).length := by
  obtain ⟨events, taken, requests, messages, replies, hc⟩ := change_step hr (.service ready)
  have hlog := requests_service r ready
  rw [hc.log, Log.requests_append] at hlog
  have hlength := congrArg List.length hc.handshake
  rw [List.append_cancel_left hlog, List.length_append, List.length_append] at hlength
  simp only [ByteQueue.length]
  omega

theorem Hears.turn (h : Hears canPrompt n base r heard) (f : σ → σ) :
    Hears canPrompt n base (r.step (.turn f)) heard := by
  obtain ⟨events, taken, requests, messages, replies, hc⟩ := change_step h.tied (.turn f)
  have hactive : (r.step (.turn f)).connection.isActive = r.connection.isActive :=
    Option.isSome_map ..
  have hlog : (r.step (.turn f)).log = r.log := List.append_nil _
  exact {
    tied := hc.tied
    sound := h.sound.apply (.turn (Recorded.turn f))
    prompter := h.prompter
    stands := h.stands.congr hactive rfl rfl rfl
    room := fun hopen => h.room (hactive.symm.trans hopen)
    requests := fun hopen => by
      rw [hlog]
      exact h.requests (hactive.symm.trans hopen) }

theorem Hears.serve (h : Hears canPrompt n base r heard)
    (hstands : (r.connection.service ready).after.Stands
      (n.hear canPrompt (heard ++ more))) :
    Hears canPrompt n base (r.step (.service ready)) (heard ++ more) := by
  obtain ⟨events, taken, requests, messages, replies, hc⟩ := change_step h.tied (.service ready)
  have hprompter : (r.step (.service ready)).connection.prompter = r.connection.prompter := by
    obtain ⟨socket, phase, inbound, outbound, handshake, failure, watcher, hafter⟩ :=
      r.connection.service_eq ready
    change (r.connection.service ready).after.prompter = _
    rw [hafter]
  have hactive : (r.connection.service ready).after.isActive = true →
      r.connection.isActive = true := by
    intro hopen
    cases hbefore : r.connection.isActive with
    | true => rfl
    | false =>
      rw [Connection.service_of_inactive hbefore] at hopen
      exact nomatch hbefore.symm.trans hopen
  have hasked (hopen : (r.connection.service ready).after.isActive = true) :=
    Phase.asked_hear (h.stands.phase? (hactive hopen)) (hstands.phase? hopen)
  exact {
    tied := hc.tied
    sound := h.sound.service ready
    prompter := by rw [hprompter, h.prompter]
    stands := hstands
    room := fun hopen hnot => by
      have hbefore : r.connection.phase.hasAsked = false := by
        cases hphase : r.connection.phase.hasAsked with
        | false => rfl
        | true => exact nomatch ((hasked hopen).2 hphase).symm.trans hnot
      have hlength := length_handshake_service h.tied ready
      rw [Phase.asked_of_not_hasAsked _ hnot] at hlength
      exact Nat.le_trans hlength (h.room (hactive hopen) hbefore)
    requests := fun hopen => by
      rw [requests_service, h.requests (hactive hopen), List.append_assoc]
      exact congrArg _ (hasked hopen).1 }

theorem Hears.send (h : Hears canPrompt n base r heard)
    (hwell : (r.connection.service .writing).answer.failure = none) :
    Hears canPrompt n base (r.step (.service .writing)) heard := by
  have hstands := h.stands.write hwell
  rw [← List.append_nil heard] at hstands ⊢
  exact h.serve hstands

theorem Hears.read (h : Hears canPrompt n base r heard)
    (hsilent : n.stage.version = .v4 ∨ canPrompt = false)
    (hholds : ∀ s, r.connection.socket = some s → Transport.Holds s more)
    (hlength : (heard ++ more).length < ByteQueue.readCeiling) :
    Hears canPrompt n base (r.step (.service .reading)) (heard ++ more) := by
  refine h.serve ?_
  rw [n.hear_append, ← h.prompter]
  refine Connection.Stands.read (by rw [h.prompter]; exact h.stands) hholds (fun hactive => ?_)
    (fun hactive n' => h.hasRoom hactive) fun rest => ?_
  · have hrest : r.connection.inbound.length ≤ heard.length := by
      rw [ByteQueue.length, h.stands.bytes_inbound hactive]
      exact n.length_rest_hear_le _ heard
    rw [h.sound.inbound.ceiling_eq]
    rw [List.length_append] at hlength
    omega
  · rw [h.prompter, ← n.hear_append]
    exact Negotiation.hear_ne_prompting hsilent _ rest

theorem Told.hears {pieces : List Bytes} (h : Told r pieces r') (hr : Hears canPrompt n base r [])
    (hsilent : n.stage.version = .v4 ∨ canPrompt = false)
    (hlength : pieces.flatten.length < ByteQueue.readCeiling) :
    Hears canPrompt n base r' pieces.flatten := by
  induction h with
  | start => exact hr
  | send f _ hwell ih => exact ((ih hlength).turn f).send hwell
  | @piece pieces r' bs f _ _ hholds ih =>
    have hflatten : (pieces ++ [bs]).flatten = pieces.flatten ++ bs := by simp
    rw [hflatten] at hlength ⊢
    have hbefore : pieces.flatten.length < ByteQueue.readCeiling := by
      rw [List.length_append] at hlength
      omega
    refine ((ih hbefore).turn f).read hsilent (fun s hs => ?_) hlength
    obtain ⟨s', hs', rfl⟩ := Option.map_eq_some_iff.1 hs
    exact Recorded.holds (hholds s' hs') rfl

theorem Told.exists_run {pieces : List Bytes} (h : Told r pieces r') : ∃ ms, r' = r.run ms := by
  induction h with
  | start => exact ⟨[], rfl⟩
  | send f _ _ ih =>
    obtain ⟨ms, rfl⟩ := ih
    exact ⟨ms ++ [.turn f, .service .writing], by rw [run_append]; rfl⟩
  | piece f _ _ _ ih =>
    obtain ⟨ms, rfl⟩ := ih
    exact ⟨ms ++ [.turn f, .service .reading], by rw [run_append]; rfl⟩

theorem Told.requested {pieces : List Bytes} (h : Told r pieces r') (hr : r.Poised n) :
    r'.Requested r'.log.requests := by
  obtain ⟨ms, rfl⟩ := h.exists_run
  obtain ⟨f, requests, messages, hsent⟩ := hr.sent
  obtain ⟨requests', messages', hsent'⟩ := hsent.run ms
  exact ⟨rfl, requests', messages', hsent'.accepted, hsent'.handshake,
    hsent'.unopened.resolve_right⟩

/-- Two runs from the same connect, in which a proxy that asks for no credentials says the same
bytes, end alike. -/
theorem endAlike_of_flatten_eq {server : Socks.Server} {r₁ r₂ : Run σ}
    {pieces₁ pieces₂ : List Bytes} (hr : r.Completed)
    (hphase : r.connection.phase = .negotiating n) (hserver : r.connection.server = some server)
    (hsilent : server.version = .v4 ∨ server.version = .v5 ∧ r.connection.prompter = none)
    (h₁ : Told r pieces₁ r₁) (h₂ : Told r pieces₂ r₂) (hsame : pieces₁.flatten = pieces₂.flatten)
    (hlength : pieces₁.flatten.length < 32768) : EndAlike r₁ r₂ := by
  have hpoised := hr.poised hphase
  have hsilent' : n.stage.version = .v4 ∨ r.connection.prompter.isSome = false := by
    obtain ⟨server', hserver', hsuits⟩ := hpoised.sound.proxied n (by rw [hphase]; rfl)
    cases hserver.symm.trans hserver'
    rw [hsuits.version]
    exact hsilent.imp id fun ⟨_, hnone⟩ => by rw [hnone]; rfl
  have hheard₁ := h₁.hears hpoised.hears hsilent' hlength
  have hheard₂ := h₂.hears hpoised.hears hsilent' (hsame ▸ hlength)
  have hrequested₁ := h₁.requested hpoised
  have hrequested₂ := h₂.requested hpoised
  rw [← hsame] at hheard₂
  -- both stand where the bytes lead, so that their phases and with them their requests agree
  have hstands₁ := hheard₁.stands
  have hstands₂ := hheard₂.stands
  cases hstanding : n.hear r.connection.prompter.isSome pieces₁.flatten with
  | waiting n' rest =>
    rw [hstanding] at hstands₁ hstands₂
    rw [hheard₁.requests hstands₁.1, hstands₁.2.2.1] at hrequested₁
    rw [hheard₂.requests hstands₂.1, hstands₂.2.2.1] at hrequested₂
    exact .negotiating hstands₁ hstands₂ hrequested₁ hrequested₂
  | granted rest =>
    rw [hstanding] at hstands₁ hstands₂
    rw [hheard₁.requests hstands₁.1, hstands₁.2.2.1] at hrequested₁
    rw [hheard₂.requests hstands₂.1, hstands₂.2.2.1] at hrequested₂
    exact .connected hstands₁ hstands₂ hrequested₁ hrequested₂
  | refused f =>
    obtain ⟨cause, rfl⟩ := Negotiation.of_hear_eq_refused hstanding
    rw [hstanding] at hstands₁ hstands₂
    exact .closed hstands₁ hstands₂
  | prompting rest =>
    rw [hstanding] at hstands₁
    exact hstands₁.elim

theorem endAlike_of_flatten_eq_in_pieces :
    let r := throughProxy {}
    let accepting (s : Script) : Script := { s with writes := [.accept 2] }
    let r₁ := (r.step (.turn (Script.saying [5]))).step (.service .reading)
    let r₂ := (r₁.step (.turn accepting)).step (.service .writing)
    let r₃ := (r₂.step (.turn (Script.saying [0, 5, 0, 0]))).step (.service .reading)
    let r₄ := (r₃.step (.turn (Script.saying [1, 1, 2, 3, 4, 5, 6, 104]))).step (.service .reading)
    let r' := (r.step (.turn (Script.saying [5, 0, 5, 0, 0, 1, 1, 2, 3, 4, 5, 6, 104]))).step
      (.service .reading)
    r₄.connection.phase = .connected ∧ r₄.connection.inbound.bytes = [104] ∧
      r₄.socket.accepted = [5, 1] ∧ r'.socket.accepted = [] ∧ EndAlike r₄ r' := by
  intro r accepting r₁ r₂ r₃ r₄ r'
  have h₁ : Told r [[5]] r₁ :=
    .piece _ .start (by decide) fun _ _ => Script.holds_saying (by decide)
  have h₂ : Told r [[5]] r₂ := .send accepting h₁ (by decide +kernel)
  have h₃ : Told r [[5], [0, 5, 0, 0]] r₃ :=
    .piece _ h₂ (by decide) fun _ _ => Script.holds_saying (by decide)
  have h₄ : Told r [[5], [0, 5, 0, 0], [1, 1, 2, 3, 4, 5, 6, 104]] r₄ :=
    .piece _ h₃ (by decide) fun _ _ => Script.holds_saying (by decide)
  have h' : Told r [[5, 0, 5, 0, 0, 1, 1, 2, 3, 4, 5, 6, 104]] r' :=
    .piece _ .start (by decide) fun _ _ => Script.holds_saying (by decide)
  have hr : r.Completed := by
    have hdial := dial_scripted {}
    exact .atOnce (show dial (scripted {}) none "host" 80 ((Connection.create ⟨10, some 13⟩ (some
      { name := "p", port := 1080, version := .v5 })).after []) = some r from hdial)
  exact ⟨by decide +kernel, by decide +kernel, by decide +kernel, by decide +kernel,
    endAlike_of_flatten_eq hr rfl rfl (.inr ⟨rfl, rfl⟩) h₄ h' rfl (by decide)⟩

end Run

end LineTunnel
