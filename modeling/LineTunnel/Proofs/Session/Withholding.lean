import LineTunnel.Proofs.Connection.Failing
import LineTunnel.Proofs.Connection.Outgoing
import LineTunnel.Proofs.Session.Arising
import LineTunnel.Proofs.Session.Turns
import LineTunnel.Proofs.Socks.Reaction

/-! A proxy wants credentials, and there are none to give it. Whatever it says behind its demand,
and however early, the session gives up at its next turn, and the proxy has got the offer of methods
and nothing more. -/

namespace LineTunnel

variable {σ : Type}

inductive Unusable : Option String → Prop
  | missing : Unusable none
  | empty : Unusable (some "")
  | long {text : String} : Socks.Frame.maxText < text.utf8ByteSize → Unusable (some text)

theorem Unusable.cases {text : Option String} (h : Unusable text) :
    text.getD "" = "" ∨ Socks.Frame.maxText < (text.getD "").utf8ByteSize := by
  cases h with
  | missing => exact .inl rfl
  | empty => exact .inl rfl
  | long hlong => exact .inr hlong

def ProxySettings.LacksCredentials (proxy : ProxySettings) : Prop :=
  Unusable proxy.authUser ∨ Unusable proxy.authPassword

namespace Socks

/-- A proxy wants credentials: what it has said, as far as it has come, begins with the selection of
this method. -/
def WantsCredentials (said : Bytes) : Prop := ∃ more, said <+: 5 :: 2 :: more

theorem WantsCredentials.of_prefix {said said' : Bytes} (h : WantsCredentials said)
    (hbegins : said' <+: said) : WantsCredentials said' := by
  obtain ⟨more, hmore⟩ := h
  exact ⟨more, hbegins.trans hmore⟩

theorem WantsCredentials.cases {said : Bytes} (h : WantsCredentials said) :
    said = [] ∨ said = [5] ∨ ∃ rest, said = 5 :: 2 :: rest := by
  obtain ⟨more, hmore⟩ := h
  rcases said with _ | ⟨first, _ | ⟨second, rest⟩⟩
  · exact .inl rfl
  · obtain ⟨rfl, -⟩ := List.cons_prefix_cons.1 hmore
    exact .inr (.inl rfl)
  · obtain ⟨rfl, hsecond⟩ := List.cons_prefix_cons.1 hmore
    obtain ⟨rfl, -⟩ := List.cons_prefix_cons.1 hsecond
    exact .inr (.inr ⟨rest, rfl⟩)

theorem Negotiation.react_of_wanting {n : Negotiation} {said : Bytes}
    (hstage : n.stage = .v5 .methods) (h : WantsCredentials said) :
    n.react true said = .wait ∨ n.react true said = .prompt := by
  unfold react
  rw [hstage]
  rcases h.cases with rfl | rfl | ⟨rest, rfl⟩
  · exact .inl rfl
  · exact .inl rfl
  · exact .inr rfl

namespace Exchange

theorem advance_of_wanting {x : Exchange} (hstage : x.negotiation.stage = .v5 .methods)
    (h : WantsCredentials x.inbound.bytes) : x.advance true = (.ok .needMore, x) ∨
      x.advance true = (.ok .credentialsRequested, { x.skip 2 with
        negotiation := { x.negotiation with stage := .v5 .userPassword, awaiting := true } }) := by
  have hstep := x.step_eq_follow true
  rcases Negotiation.react_of_wanting hstage h with hwait | hprompt
  · rw [hwait] at hstep
    have hnone : ¬(0 < x.inbound.length ∧ x.inbound.length < x.inbound.length) :=
      fun hless => absurd hless.2 (Nat.lt_irrefl _)
    refine .inl ?_
    unfold advance
    rw [hstep]
    exact if_neg hnone
  · rw [hprompt] at hstep
    refine .inr ?_
    unfold advance
    rw [hstep]
    rfl

theorem submit_of_unusable {x : Exchange} {user password : Option String}
    (hawaiting : x.negotiation.awaiting = true) (h : Unusable user ∨ Unusable password) :
    ∃ f, f ≠ .socks .notAwaitingCredentials ∧
      x.submit (user.getD "") (password.getD "") = (.error f, x) := by
  by_cases hempty : user.getD "" = "" ∨ password.getD "" = ""
  · refine ⟨.socks .userCancelled, nofun, ?_⟩
    unfold submit
    rw [hawaiting, if_neg (by decide), if_pos (by simpa using hempty)]
  · have hlong : Frame.maxText < (user.getD "").utf8ByteSize ∨
        Frame.maxText < (password.getD "").utf8ByteSize := by
      rcases h with huser | hpassword
      · exact .inl (huser.cases.resolve_left fun hnone => hempty (.inl hnone))
      · exact .inr (hpassword.cases.resolve_left fun hnone => hempty (.inr hnone))
    refine ⟨.socks .credentialsTooLong, nofun, ?_⟩
    unfold submit Frame.credentials
    rw [hawaiting, if_neg (by decide), if_neg (by simpa using hempty), if_pos hlong]
    rfl

end Exchange

end Socks

namespace Connection

structure Opening (taken : Bytes) (c : Connection σ) : Prop where
  negotiation : ∃ n, c.phase.negotiation? = some n ∧ n.stage = .v5 .methods
  inbound : c.inbound.bytes = taken

def Prompted (c : Connection σ) : Prop :=
  ∃ n, c.phase = .negotiating n ∧ n.stage = .v5 .userPassword ∧ n.awaiting = true

theorem advance_of_wanting {c : Connection σ} {taken : Bytes} (h : c.Opening taken)
    (hphase : ∃ n, c.phase = .negotiating n) (hserver : c.server.isSome = true)
    (hprompter : c.prompter.isSome = true) (hwants : Socks.WantsCredentials taken) :
    c.advance.2.1.Opening taken ∨
      c.advance.2.1.Prompted ∧ c.advance.2.2.any Session.isPrompt = true := by
  obtain ⟨n, hphase⟩ := hphase
  obtain ⟨server, hserver⟩ := Option.isSome_iff_exists.1 hserver
  obtain ⟨listener, hlistener⟩ := Option.isSome_iff_exists.1 hprompter
  have hstage : n.stage = .v5 .methods := by
    obtain ⟨n', hn', hmethods⟩ := h.negotiation
    rw [hphase] at hn'
    cases hn'
    exact hmethods
  have hadvance := Socks.Exchange.advance_of_wanting (x := ⟨n, c.inbound, c.handshake⟩) hstage
    (by rw [h.inbound]; exact hwants)
  unfold advance
  rw [hphase, hprompter]
  dsimp only
  rcases hadvance with hwait | hprompt
  · rw [hwait]
    exact .inl ⟨⟨n, rfl, hstage⟩, h.inbound⟩
  · rw [hprompt, hlistener, hserver]
    exact .inr ⟨⟨_, rfl, rfl, rfl⟩, rfl⟩

section

variable [Transport σ] {c : Connection (Recorded σ)} {s : Recorded σ}

/-- A service call leaves the connection like this, over this socket, and has told this much before
it ends. If the proxy wants credentials, then no method is selected yet, or the wish was told. -/
structure Demanded (c : Connection (Recorded σ)) (ready : Readiness) (c' : Connection (Recorded σ))
    (told : List (Notice (Recorded σ))) (s' : Recorded σ) : Prop where
  service : ∃ result waiting, c.service ready = c'.finish result waiting told
  quiet : closedSockets told = []
  socket : c'.socket = some s'
  demanded : Socks.WantsCredentials s'.taken → c'.Opening s'.taken ∨
    c'.Prompted ∧ told.any Session.isPrompt = true

theorem Opening.demanded (h : c.Opening s.taken) {ready : Readiness}
    {c' : Connection (Recorded σ)} (hservice : c.service ready = c'.settle false [] ∨
      ∃ f, c.service ready = c'.fail f false [])
    {s' : Recorded σ} {bs : Bytes} (hcarried : Recorded.Carried s s' [] bs)
    (hsocket : c'.socket = some s') (hphase : c'.phase.negotiation? = c.phase.negotiation?)
    (hinbound : c'.inbound = c.inbound) : Demanded c ready c' [] s' where
  service := by
    rcases hservice with hsettle | ⟨f, hfail⟩
    · exact ⟨.ok (), false, hsettle⟩
    · exact ⟨.error f, false, hfail⟩
  quiet := rfl
  socket := hsocket
  demanded _ := by
    refine .inl ⟨?_, ?_⟩
    · rw [hphase]
      exact h.negotiation
    · rw [hcarried.taken, List.append_nil, hinbound]
      exact h.inbound

theorem flushIf_of_negotiating (hs : c.socket = some s) {n : Socks.Negotiation}
    (hphase : c.phase = .negotiating n) (ready : Readiness) :
    ∃ s' handshake bs, (c.flushIf ready).2 = { c with socket := some s', handshake } ∧
      Recorded.Carried s s' [] bs := by
  unfold flushIf
  cases ready.writable with
  | false => exact ⟨s, c.handshake, [], by rw [← hs]; rfl, .refl s⟩
  | true =>
    obtain ⟨bs, hcarried, -⟩ := Recorded.carried_drain s c.handshake
    refine ⟨_, (Transport.drain s c.handshake).2.2, bs, ?_, hcarried⟩
    unfold flush
    rw [hs, hphase]
    rfl

theorem demanded_receive (hs : c.socket = some s) (h : c.Opening s.taken)
    (hphase : ∃ n, c.phase = .negotiating n) (hserver : c.server.isSome = true)
    (hprompter : c.prompter.isSome = true) {c₀ : Connection (Recorded σ)} {ready : Readiness}
    (hservice : c₀.service ready = c.receive) : ∃ c' told s', Demanded c₀ ready c' told s' := by
  obtain ⟨bs, hcarried, hbytes⟩ := Recorded.carried_fill s c.inbound
  have hfill := fill_open hs
  have hfilled : c.fill.2.Opening (Transport.fill s c.inbound).2.1.taken := by
    rw [hfill]
    refine ⟨h.negotiation, ?_⟩
    rw [hcarried.taken, ← h.inbound]
    exact hbytes
  have hsocket : c.fill.2.socket = some (Transport.fill s c.inbound).2.1 := by rw [hfill]
  obtain ⟨phase, inbound, handshake, hadvance⟩ := c.fill.2.advance_eq
  refine ⟨c.absorb.2, c.fill.2.advance.2.2, (Transport.fill s c.inbound).2.1,
    ⟨_, _, hservice.trans c.receive_eq_finish⟩, (advance_onlyPrompts _).closedSockets_eq_nil,
    ?_, ?_⟩
  · unfold absorb
    rw [hadvance]
    exact hsocket
  · intro hwants
    refine advance_of_wanting hfilled ?_ ?_ ?_ hwants
    all_goals
      rw [hfill]
      assumption

theorem demanded_exchange (hs : c.socket = some s) (h : c.Opening s.taken)
    {n : Socks.Negotiation} (hphase : c.phase = .negotiating n) (hserver : c.server.isSome = true)
    (hprompter : c.prompter.isSome = true) {ready : Readiness}
    (hservice : c.service ready = c.exchange ready) :
    ∃ c' told s', Demanded c ready c' told s' := by
  obtain ⟨s₁, handshake, bs, hflushed, hcarried⟩ := flushIf_of_negotiating hs hphase ready
  rw [exchange_eq, hflushed] at hservice
  split at hservice
  · next f hsent => exact ⟨_, [], s₁, h.demanded (.inr ⟨f, hservice⟩) hcarried rfl rfl rfl⟩
  · split at hservice
    · have hopening : Opening s₁.taken { c with socket := some s₁, handshake } := by
        refine ⟨h.negotiation, ?_⟩
        rw [hcarried.taken, List.append_nil]
        exact h.inbound
      exact demanded_receive rfl hopening ⟨n, hphase⟩ hserver hprompter hservice
    · exact ⟨_, [], s₁, h.demanded (.inl hservice) hcarried rfl rfl rfl⟩

theorem demanded_service (hs : c.socket = some s) (h : c.Opening s.taken)
    (hserver : c.server.isSome = true) (hprompter : c.prompter.isSome = true) (ready : Readiness) :
    ∃ c' told s', Demanded c ready c' told s' := by
  have hpending := Recorded.carried_pendingError s
  have hservice : c.service ready = c.service ready := rfl
  conv at hservice =>
    rhs
    unfold service
  rw [hs] at hservice
  cases hf : c.failure with
  | some f =>
    rw [hf] at hservice
    exact ⟨c, [], s, h.demanded (.inr ⟨f, hservice⟩) (.refl s) hs rfl rfl⟩
  | none =>
    rw [hf] at hservice
    dsimp only at hservice
    split at hservice
    · exact ⟨_, [], _, h.demanded (.inr ⟨_, hservice⟩) hpending rfl rfl rfl⟩
    split at hservice
    · next opening hphase =>
      split at hservice
      · unfold finishConnect at hservice
        dsimp only at hservice
        split at hservice
        · exact ⟨_, [], _, h.demanded (.inr ⟨_, hservice⟩) hpending rfl rfl rfl⟩
        · refine ⟨_, [], _, h.demanded (.inl hservice) hpending rfl ?_ rfl⟩
          rw [hphase]
          cases opening <;> rfl
      · exact ⟨c, [], s, h.demanded (.inl hservice) (.refl s) hs rfl rfl⟩
    · next hopened =>
      obtain ⟨n, hn, -⟩ := h.negotiation
      cases hphase : c.phase with
      | unconnected opening => exact absurd hphase (hopened opening)
      | negotiating n' => exact demanded_exchange hs h hphase hserver hprompter hservice
      | connected =>
        rw [hphase] at hn
        cases hn

end

theorem Prompted.hasAsked {c : Connection σ} (h : c.Prompted) : c.phase.hasAsked = false := by
  obtain ⟨n, hphase, hstage, -⟩ := h
  have hn : c.phase.negotiation? = some n := by
    rw [hphase]
    rfl
  rw [Phase.hasAsked_of_negotiation? hn, hstage]
  rfl

theorem any_notices_finish {told : List (Notice σ)} (h : told.any Session.isPrompt = true)
    (result : Except Failure Unit) (waiting : Bool) (c : Connection σ) :
    (c.finish result waiting told).notices.any Session.isPrompt = true := by
  cases result with
  | ok u =>
    change (told ++ (c.report false).2).any Session.isPrompt = true
    rw [List.any_append, h]
    rfl
  | error f =>
    change (told ++ _).any Session.isPrompt = true
    rw [List.any_append, h]
    rfl

theorem submit_of_unusable {user password : Option String} (h : Unusable user ∨ Unusable password)
    (c : Connection σ) : ∃ f watcher failure,
      (c.submit (user.getD "") (password.getD "")).answer = .error f ∧
      (c.submit (user.getD "") (password.getD "")).after = { c with watcher, failure } ∧
      (c.Prompted ∨ c.failure.isSome = true → failure.isSome = true) := by
  cases hc : c.awaitingCredentials with
  | false =>
    rw [submit_of_not_awaiting hc]
    refine ⟨_, c.watcher, c.failure, rfl, rfl, ?_⟩
    rintro (⟨n, hphase, -, hawaiting⟩ | hfailed)
    · have hyes := awaitingCredentials_eq_true.2 ⟨n, by rw [hphase]; rfl, hawaiting⟩
      exact nomatch hc.symm.trans hyes
    · exact hfailed
  | true =>
    obtain ⟨n, hn, hawaiting⟩ := awaitingCredentials_eq_true.1 hc
    obtain ⟨f, hf, herror⟩ := Socks.Exchange.submit_of_unusable
      (x := ⟨n, c.inbound, c.handshake⟩) hawaiting h
    obtain ⟨watcher, told, -, hsubmit⟩ := submit_of_refused hn herror hf
    rw [hsubmit]
    exact ⟨f, watcher, some f, rfl, rfl, fun _ => rfl⟩

end Connection

namespace Run

inductive Unanswered (r : Run σ) : Prop
  | opening : r.connection.Opening r.socket.taken → Unanswered r
  | refused {n : Socks.Negotiation} : r.connection.phase = .negotiating n →
      n.stage = .v5 .userPassword →
      r.connection.failure.isSome = true ∨ r.connection.socket = none → Unanswered r

variable {r : Run σ}

theorem Unanswered.hasAsked (h : r.Unanswered) : r.connection.phase.hasAsked = false := by
  cases h with
  | opening hopening =>
    obtain ⟨n, hn, hstage⟩ := hopening.negotiation
    rw [Phase.hasAsked_of_negotiation? hn, hstage]
    rfl
  | @refused n hphase hstage =>
    have hn : r.connection.phase.negotiation? = some n := by
      rw [hphase]
      rfl
    rw [Phase.hasAsked_of_negotiation? hn, hstage]
    rfl

theorem Unanswered.ne_connected (h : r.Unanswered) : r.connection.phase ≠ .connected := by
  intro hconnected
  have hasked := h.hasAsked
  rw [hconnected] at hasked
  cases hasked

variable [Transport σ]

theorem Unanswered.turn (h : r.Unanswered) (htied : r.Tied) (f : σ → σ) :
    (r.step (.turn f)).Unanswered := by
  obtain ⟨events, hc⟩ := change_turn htied f
  have htaken := hc.carried.taken
  rw [List.append_nil] at htaken
  cases h with
  | opening hopening => exact .opening ⟨hopening.negotiation, hopening.inbound.trans htaken.symm⟩
  | refused hphase hstage hgone =>
    refine .refused hphase hstage (hgone.imp id fun hclosed => ?_)
    change r.connection.socket.map _ = none
    rw [hclosed]
    rfl

theorem Unanswered.service (h : r.Unanswered) (htied : r.Tied)
    (hserver : r.connection.server.isSome = true)
    (hprompter : r.connection.prompter.isSome = true) (ready : Readiness)
    (hwants : Socks.WantsCredentials (r.step (.service ready)).socket.taken) :
    (r.step (.service ready)).Unanswered ∨ (r.step (.service ready)).connection.Prompted ∧
      (r.connection.service ready).notices.any Session.isPrompt = true := by
  cases hs : r.connection.socket with
  | none =>
    have hservice := Connection.service_closed hs ready
    obtain ⟨hconnection, hsocket⟩ := r.step_service ready
    rw [hservice] at hconnection hsocket
    rw [Effect.lastSocket_of_quiet rfl, hs] at hsocket
    refine .inl ?_
    cases h with
    | opening hopening =>
      refine .opening ?_
      rwa [hconnection, hsocket]
    | refused hphase hstage hgone =>
      refine .refused (hconnection ▸ hphase) hstage (.inr ?_)
      rwa [hconnection]
  | some s =>
    cases h with
    | opening hopening =>
      rw [htied s hs] at hopening
      obtain ⟨c', told, s', hd⟩ := Connection.demanded_service hs hopening hserver hprompter ready
      obtain ⟨result, waiting, hservice⟩ := hd.service
      obtain ⟨outcome, socket, failure, watcher, told', hfinish, hlast, -⟩ :=
        Connection.finish_cases hd.socket result waiting hd.quiet
      obtain ⟨hconnection, hsocket⟩ := r.step_service ready
      rw [hservice, hfinish] at hconnection
      rw [hservice, hlast, Option.getD_some] at hsocket
      rw [hsocket] at hwants
      rcases hd.demanded hwants with hstill | ⟨hprompted, hasked⟩
      · refine .inl (.opening ?_)
        rw [hconnection, hsocket]
        exact ⟨hstill.negotiation, hstill.inbound⟩
      · refine .inr ⟨?_, ?_⟩
        · rw [hconnection]
          exact hprompted
        · rw [hservice]
          exact Connection.any_notices_finish hasked result waiting c'
    | refused hphase hstage hgone =>
      obtain ⟨f, hf⟩ : ∃ f, r.connection.failure = some f := by
        refine Option.isSome_iff_exists.1 (hgone.resolve_right fun hclosed => ?_)
        exact nomatch hclosed.symm.trans hs
      obtain ⟨-, -, watcher, hafter⟩ := Connection.service_of_known hs hf ready
      have hconnection : (r.step (.service ready)).connection =
          { r.connection with watcher, socket := none } := hafter
      refine .inl (.refused ?_ hstage (.inr ?_))
      · rw [hconnection]
        exact hphase
      · rw [hconnection]

theorem unanswered_submit {user password : Option String}
    (hnone : Unusable user ∨ Unusable password) (htied : r.Tied)
    (h : r.Unanswered ∨ r.connection.Prompted) :
    (r.step (.submit (user.getD "") (password.getD ""))).Unanswered ∧
      (r.step (.submit (user.getD "") (password.getD ""))).log = r.log := by
  obtain ⟨f, watcher, failure, hanswer, hafter, hfailed⟩ := r.connection.submit_of_unusable hnone
  obtain ⟨events, hc⟩ := change_submit htied (user.getD "") (password.getD "")
  have htaken := hc.carried.taken
  rw [List.append_nil] at htaken
  have heffect : (Move.submit (user.getD "") (password.getD "")).effect r.connection =
      ⟨[], { r.connection with watcher, failure },
        (r.connection.submit (user.getD "") (password.getD "")).notices⟩ := by
    dsimp only [Move.effect]
    rw [hanswer, hafter]
  have hconnection : (r.step (.submit (user.getD "") (password.getD ""))).connection =
      { r.connection with watcher, failure } := congrArg Effect.after heffect
  refine ⟨?_, ?_⟩
  · rcases h with (hopening | @⟨n, hphase, hstage, hgone⟩) | hprompted
    · refine .opening ?_
      rw [hconnection, htaken]
      exact ⟨hopening.negotiation, hopening.inbound⟩
    · refine .refused (hconnection ▸ hphase) hstage ?_
      rw [hconnection]
      exact hgone.imp (fun hfailure => hfailed (.inr hfailure)) id
    · obtain ⟨n, hphase, hstage, -⟩ := id hprompted
      refine .refused (hconnection ▸ hphase) hstage (.inl ?_)
      rw [hconnection]
      exact hfailed (.inl hprompted)
  · change r.log ++ ((Move.submit _ _).effect r.connection).answer = r.log
    rw [heffect]
    exact List.append_nil _

theorem log_service_of_not_hasAsked {ready : Readiness}
    (h : (r.step (.service ready)).connection.phase.hasAsked = false) :
    (r.step (.service ready)).log = r.log := by
  rw [log_service, Phase.asked_of_not_hasAsked _ h]
  exact List.append_nil _

end Run

namespace Session

variable [Pollable σ] {config : Config} {proxy : ProxySettings} {r : Run σ}
  {s : Session (Recorded σ)} {machine : Machine σ}

structure Withholds (config : Config) (r : Run σ) (s : Session (Recorded σ)) : Prop where
  serves : s.Serves config
  connection : r.connection = s.connection
  tied : r.Tied
  silent : Socks.WantsCredentials r.socket.taken →
    r.Unanswered ∧ r.log.requests = Socks.Frame.methods true

omit [Pollable σ] in
theorem Serves.answerMove_eq (h : s.Serves config) (hproxy : config.proxy = some proxy) :
    s.answerMove = .submit (proxy.authUser.getD "") (proxy.authPassword.getD "") := by
  unfold answerMove
  rw [h.configured, hproxy]
  rfl

theorem Withholds.silent_turn (h : Withholds config r s) (hproxy : config.proxy = some proxy)
    (hlacks : proxy.LacksCredentials) (turn : Turn σ)
    (hwants : Socks.WantsCredentials (r.run (s.turnMoves turn)).socket.taken) :
    (r.run (s.turnMoves turn)).Unanswered ∧ (r.run (s.turnMoves turn)).log = r.log := by
  obtain ⟨-, taken, accepted, hcarried⟩ := Run.carried_run h.tied (s.turnMoves turn)
  have hunanswered := (h.silent (hwants.of_prefix ⟨taken, hcarried.taken.symm⟩)).1
  have hturned := hunanswered.turn h.tied turn
  have htied := (Run.carried_run h.tied [.turn turn]).1
  have hlog : (r.step (.turn turn)).log = r.log := List.append_nil _
  have hconnection : (r.step (.turn turn)).connection = s.connection.turned turn :=
    congrArg (Connection.turned turn) h.connection
  obtain ⟨⟨server, -, hserver⟩, hprompter⟩ := h.serves.proxied proxy hproxy
  have hserved (ready : Readiness) := hturned.service htied
    (by rw [hconnection]; exact hserver ▸ rfl) (by rw [hconnection]; exact hprompter ▸ rfl) ready
  rcases s.turnMoves_cases turn with hmoves | ⟨ready, ⟨hquiet, hmoves⟩ | ⟨hasked, hmoves⟩⟩
  · rw [hmoves]
    exact ⟨hturned, hlog⟩
  · rw [hmoves] at hwants ⊢
    have hstill := (hserved ready hwants).resolve_right fun hother => by
      rw [hconnection, hquiet] at hother
      exact nomatch hother.2
    exact ⟨hstill, (Run.log_service_of_not_hasAsked hstill.hasAsked).trans hlog⟩
  · rw [hmoves, h.serves.answerMove_eq hproxy] at hwants ⊢
    have htied' := (Run.carried_run htied [.service ready]).1
    obtain ⟨-, more, _, hmore⟩ := Run.carried_run htied'
      [.submit (proxy.authUser.getD "") (proxy.authPassword.getD "")]
    have hcases := hserved ready (hwants.of_prefix ⟨more, hmore.taken.symm⟩)
    have hnot : ((r.step (.turn turn)).step (.service ready)).connection.phase.hasAsked = false :=
      hcases.elim Run.Unanswered.hasAsked fun hprompted => hprompted.1.hasAsked
    have hanswered := Run.unanswered_submit hlacks htied' (hcases.imp id And.left)
    exact ⟨hanswered.1, hanswered.2.trans ((Run.log_service_of_not_hasAsked hnot).trans hlog)⟩

theorem Withholds.pump (h : Withholds config r s) (hproxy : config.proxy = some proxy)
    (hlacks : proxy.LacksCredentials) (turn : Turn σ) :
    Withholds config (r.run (s.turnMoves turn)) (s.pump (Recorded.turn turn)) := by
  obtain ⟨htied, taken, accepted, hcarried⟩ := Run.carried_run h.tied (s.turnMoves turn)
  refine ⟨h.serves.pump _, run_turnMoves h.connection turn, htied, fun hwants => ?_⟩
  obtain ⟨hunanswered, hlog⟩ := h.silent_turn hproxy hlacks turn hwants
  have hbefore := h.silent (hwants.of_prefix ⟨taken, hcarried.taken.symm⟩)
  rw [hlog]
  exact ⟨hunanswered, hbefore.2⟩

theorem version_of_server {server : Socks.Server} (h : proxy.server = .ok server) :
    Socks.Version.ofNumber? proxy.version.toNat = some server.version := by
  unfold ProxySettings.server at h
  split at h
  · cases h
  · next version hversion =>
    split at h
    · cases h
    · cases h
      exact hversion

omit [Pollable σ] in
theorem withholds_dial (hs : s.Serves config) (hproxy : config.proxy = some proxy)
    (hversion : proxy.version = 5) (hr : s.dialRun machine = some r) :
    Withholds config r (s.dial machine.recorded).2 := by
  obtain ⟨⟨server, hserver, hknown⟩, hprompter⟩ := hs.proxied proxy hproxy
  have hfive : server.version = .v5 := by
    have hnumber := version_of_server hserver
    rw [hversion] at hnumber
    exact (Option.some.inj hnumber).symm
  refine ⟨hs.congr (Connection.sameProxy_startConnect ..), connection_dialRun hr,
    (Run.fresh_dial hr).tied, fun _ => ?_⟩
  obtain ⟨stream, watcher, opening, phase, handshake, rfl, hphase, -, hcases⟩ :=
    Run.dial_eq_some hr
  rcases hcases with ⟨hnone, -⟩ | ⟨server', n, hsome, rfl, hstage, hheard⟩
  · exact nomatch hknown.symm.trans hnone
  · cases hknown.symm.trans hsome
    refine ⟨.opening ⟨⟨n, ?_, ?_⟩, rfl⟩, ?_⟩
    · rcases hphase with rfl | rfl <;> rfl
    · have hopened := hheard true
      rw [hfive] at hstage
      cases hn : n.stage with
      | v4 =>
        rw [hn] at hstage
        cases hstage
      | v5 stage =>
        rw [hn] at hopened
        cases hopened
        rfl
    · change (Log.ofRequest (Run.openingRequest machine _ _ s.connection)).requests = _
      rw [Log.requests_ofRequest]
      unfold Run.openingRequest Socks.openingRequest
      rw [hknown, hprompter]
      dsimp only
      rw [hfive]
      rfl

/-- Where credentials are wanted that cannot be given, the attempt to connect fails, it is not
connected at any time, and the proxy gets the offer of methods at most. -/
structure GivesUp (machine : Machine σ) (turns : List (Turn σ)) (s : Session (Recorded σ)) :
    Prop where
  failed : ∃ e, (s.connect machine.recorded (turns.map Recorded.turn)).1 = .error e
  unconnected :
    (s.connect machine.recorded (turns.map Recorded.turn)).2.connection.isConnected = false
  followed : ∀ r, s.dialRun machine = some r → ∃ s',
    (r.run (s.connectMoves machine turns)).connection = s'.connection ∧
      ((s.connect machine.recorded (turns.map Recorded.turn)).2 = s' ∨
        (s.connect machine.recorded (turns.map Recorded.turn)).2 = s'.close)
  silent : ∀ r, s.dialRun machine = some r → ∀ ms, ms <+: s.connectMoves machine turns →
    (r.run ms).connection.phase ≠ .connected ∧ (r.run ms).socket.accepted <+: [5, 2, 0, 2]

theorem silent_of_unanswered (hr : s.dialRun machine = some r) {ms moves : List (Move σ)}
    (hms : ms <+: moves) (hunanswered : (r.run moves).Unanswered)
    (hrequests : (r.run moves).log.requests = Socks.Frame.methods true) :
    (r.run ms).connection.phase ≠ .connected ∧ (r.run ms).socket.accepted <+: [5, 2, 0, 2] := by
  obtain ⟨rest, rfl⟩ := hms
  have htied := (Run.carried_run (Run.fresh_dial hr).tied ms).1
  obtain ⟨-, taken, accepted, hcarried⟩ := Run.carried_run htied rest
  obtain ⟨requests, messages, haccepted, hbegins, -, -, hnone⟩ :=
    Run.accepted_of_begun (.dialed hr) (ms ++ rest)
  rw [Run.run_append] at hunanswered hrequests haccepted hbegins hnone
  refine ⟨fun hconnected => ?_, ?_⟩
  · exact hunanswered.ne_connected (Run.connected_run htied hconnected rest)
  · rw [hnone hunanswered.ne_connected, List.append_nil] at haccepted
    rw [hrequests] at hbegins
    refine List.IsPrefix.trans ⟨accepted, ?_⟩ hbegins
    rw [← haccepted, hcarried.accepted]

theorem unanswered_of_lacking (hproxy : config.proxy = some proxy) (hversion : proxy.version = 5)
    (hlacks : proxy.LacksCredentials) (hs : s.Serves config) (turns : List (Turn σ))
    (hr : s.dialRun machine = some r)
    (hwants : Socks.WantsCredentials (r.run (s.connectMoves machine turns)).socket.taken) :
    (r.run (s.connectMoves machine turns)).Unanswered ∧
      (r.run (s.connectMoves machine turns)).log.requests = Socks.Frame.methods true ∧
      ∃ s', (r.run (s.connectMoves machine turns)).connection = s'.connection ∧
        ((s.connect machine.recorded (turns.map Recorded.turn)).2 = s' ∨
          (s.connect machine.recorded (turns.map Recorded.turn)).2 = s'.close) := by
  rcases connect_cases (P := Withholds config)
    (fun turn _ _ h => h.pump hproxy hlacks turn) machine turns
    (fun r hr => withholds_dial hs hproxy hversion hr) with
    ⟨f, -, hnone⟩ | ⟨r', s', hr', hwithholds, hconnect⟩
  · cases hnone.symm.trans hr
  · cases hr.symm.trans hr'
    obtain ⟨hunanswered, hrequests⟩ := hwithholds.silent hwants
    refine ⟨hunanswered, hrequests, s', hwithholds.connection, ?_⟩
    rw [hconnect]
    cases s'.dialed? with
    | some answer => exact .inl rfl
    | none => exact .inr rfl

/-- A session that goes through a version 5 proxy and has no user or no password for it, or one that
is too long, gives up whenever the proxy wants credentials, with whatever the proxy says behind. -/
theorem givesUp_of_lacking (hproxy : config.proxy = some proxy) (hversion : proxy.version = 5)
    (hlacks : proxy.LacksCredentials) (hs : Arises config s) (machine : Machine σ)
    (turns : List (Turn σ)) (hwants : ∀ r, s.dialRun machine = some r →
      Socks.WantsCredentials (r.run (s.connectMoves machine turns)).socket.taken) :
    s.GivesUp machine turns := by
  have hended r (hr : s.dialRun machine = some r) :=
    unanswered_of_lacking hproxy hversion hlacks hs.serves turns hr (hwants r hr)
  have hends := connect_ends machine.recorded (turns.map Recorded.turn) s
  have hunconnected :
      (s.connect machine.recorded (turns.map Recorded.turn)).2.connection.isConnected = false := by
    rcases connect_cases (P := fun _ _ => True) (fun _ _ _ _ => trivial) machine turns
      (fun _ _ => trivial) with ⟨f, hfailed, -⟩ | ⟨r, -, hr, -, -⟩
    · cases hends with
      | stands hok =>
        rw [hfailed] at hok
        cases hok
      | failed hanswer hcause hclosed hunconnected => exact hunconnected
    · obtain ⟨hunanswered, -, s', hconnection, hs' | hs'⟩ := hended r hr
      · have hphase := hunanswered.ne_connected
        rw [hconnection] at hphase
        rw [hs']
        simpa [Connection.isConnected] using hphase
      · rw [hs']
        exact (gone_close s').unconnected
  refine ⟨?_, hunconnected, fun r hr => (hended r hr).2.2, fun r hr ms hms => ?_⟩
  · cases hends with
    | stands hok hconnected => cases hunconnected.symm.trans hconnected
    | failed hanswer => exact ⟨_, hanswer⟩
  · obtain ⟨hunanswered, hrequests, -⟩ := hended r hr
    exact silent_of_unanswered hr hms hunanswered hrequests

def userOnly : Config := { proxy := some { host := "p", authUser := some "u" } }

def eager : Link := { inbox := [5, 2, 1, 0, 5, 0, 0, 1, 1, 2, 3, 4, 5, 6, 104, 10] }

def offering : Session (Recorded Link) where
  config := userOnly
  connection := (Connection.create ⟨10, some 13⟩
    (some { name := "p", port := 1080, version := .v5, authUser := some "u" })).setPrompter prompter

def offered : Connection (Recorded Link) := { offering.connection with
  socket := some { stream := eager }
  phase := .negotiating { stage := .v5 .methods, host := "127.0.0.1", port := 7902 }
  handshake := ⟨[5, 2, 0, 2], List.replicate 252 0, 65536⟩ }

theorem create_userOnly : create userOnly = .ok offering := rfl

set_option maxRecDepth 4000 in
theorem dialRun_offering : offering.dialRun (linking eager) =
    some ⟨offered, { stream := eager }, .ofRequest [5, 2, 0, 2]⟩ := by with_unfolding_all rfl

theorem connectMoves_offering (turns : List (Turn Link)) :
    offering.connectMoves (linking eager) turns =
      awaitMoves (fun s => s.dialed?.map (·, s)) turns ⟨userOnly, offered⟩ := by
  unfold connectMoves
  change awaitMoves _ turns ⟨userOnly, (offering.dial (linking eager).recorded).2.connection⟩ = _
  rw [← connection_dialRun dialRun_offering]

theorem givesUp_of_lacking_before_eager_proxy :
    (∃ r, offering.dialRun (linking eager) = some r ∧
      (r.run (offering.connectMoves (linking eager) [id, id])).socket.taken = eager.inbox ∧
      (r.run (offering.connectMoves (linking eager) [id, id])).socket.accepted = [5, 2, 0, 2]) ∧
    offering.GivesUp (linking eager) [id, id] := by
  have hmoves := connectMoves_offering [id, id]
  refine ⟨⟨_, dialRun_offering, ?taken, ?accepted⟩, ?_⟩
  case taken =>
    rw [hmoves]
    decide +kernel
  case accepted =>
    rw [hmoves]
    decide +kernel
  refine givesUp_of_lacking rfl rfl (.inr .missing) (.created create_userOnly) _ _ fun r hr => ?_
  cases hr.symm.trans dialRun_offering
  rw [hmoves]
  exact ⟨eager.inbox.drop 2, by decide +kernel⟩

end Session

end LineTunnel
