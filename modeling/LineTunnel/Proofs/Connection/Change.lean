import LineTunnel.Proofs.Connection.Run

/-! What one move does to a run, whichever move it is: the queues, the socket and the log change
together so that no byte is lost, doubled or taken out of order. Every invariant of runs is drawn
from this. -/

namespace LineTunnel.Run

open Socks (Negotiation)

variable {σ : Type}

/-- Where the bytes go in one move. Messages wait in the outbound queue and requests in the
handshake queue until the socket accepts them; what is taken from the socket waits in the inbound
queue until it serves as a reply of the proxy or goes to the owner. -/
structure Change (m : Move σ) (r r' : Run σ) (events : Log)
    (taken requests messages replies : Bytes) : Prop where
  log : r'.log = r.log ++ events
  tied : r'.Tied
  closed : r.connection.socket = none → r'.connection.socket = none ∧
    (r'.connection.phase = .connected → r.connection.phase = .connected)
  carried : Recorded.Carried r.socket r'.socket taken (requests ++ messages)
  outbound : r.connection.outbound.bytes ++ r.connection.framing.stream events.accepted =
    messages ++ r'.connection.outbound.bytes
  sent : messages <+: r.connection.outbound.bytes
  handshake : r.connection.handshake.bytes ++ events.requests =
    requests ++ r'.connection.handshake.bytes
  inbound : r.connection.inbound.bytes ++ taken =
    replies ++ events.output ++ r'.connection.inbound.bytes
  requests : requests = [] ∨ ∃ n, r.connection.phase = .negotiating n
  messages : messages = [] ∨ r.connection.phase = .connected ∧ r.connection.overflowed = false ∧
    r.connection.socket.isSome = true
  failedWrites : r'.socket.failedWrites = r.socket.failedWrites ∨ r'.connection.socket = none ∧
    (r.connection.phase = .connected → r'.connection.outbound.bytes ≠ [])
  leads : ∃ result, (r'.connection.socket.isSome = true → result = .ok ()) ∧
    r.connection.phase.Leads r.connection.prompter.isSome result replies r'.connection.phase
  framing : r'.connection.framing = r.connection.framing
  overflowed : r'.connection.overflowed = (r.connection.overflowed || events.hasDrop)
  prompter : r.connection.prompter.isSome = true → r'.connection.prompter.isSome = true
  received : ∀ raw message, .received raw message ∈ events → r.connection.phase = .connected ∧
    ∃ body, r.connection.framing.terminator ∉ body ∧
      raw = body ++ [r.connection.framing.terminator] ∧
      message = r.connection.framing.trim body
  handedOut : ∀ bs, .handedOut bs ∈ events → ∃ n, m = .take n
  queued : events.accepted = [] ∨ ∃ message, m = .queue message

structure Alike (c c' : Connection (Recorded σ)) : Prop where
  framing : c'.framing = c.framing
  phase : c'.phase = c.phase
  inbound : c'.inbound = c.inbound
  outbound : c'.outbound = c.outbound
  handshake : c'.handshake = c.handshake
  overflowed : c'.overflowed = c.overflowed

theorem change_of_alike {m : Move σ} {r r' : Run σ} (h : Alike r.connection r'.connection)
    (hlog : r'.log = r.log) (htied : r'.Tied)
    (hclosed : r.connection.socket = none → r'.connection.socket = none)
    (hcarried : Recorded.Carried r.socket r'.socket [] [])
    (hfailed : r'.socket.failedWrites = r.socket.failedWrites)
    (hprompter : r.connection.prompter.isSome = true → r'.connection.prompter.isSome = true) :
    Change m r r' [] [] [] [] [] where
  log := by rw [hlog, List.append_nil]
  tied := htied
  closed hs := ⟨hclosed hs, fun hp => h.phase ▸ hp⟩
  carried := hcarried
  outbound := by
    rw [h.outbound]
    exact List.append_nil _
  sent := List.nil_prefix
  handshake := by
    rw [h.handshake]
    exact List.append_nil _
  inbound := by
    rw [h.inbound]
    exact List.append_nil _
  requests := .inl rfl
  messages := .inl rfl
  failedWrites := .inl hfailed
  leads := by
    rw [h.phase]
    exact ⟨.ok (), fun _ => rfl, .stay _⟩
  framing := h.framing
  overflowed := by
    rw [h.overflowed]
    exact (Bool.or_false _).symm
  prompter := hprompter
  received := nofun
  handedOut := nofun
  queued := .inl rfl

theorem change_none (m : Move σ) {r : Run σ} (hr : r.Tied) : Change m r r [] [] [] [] [] :=
  change_of_alike ⟨rfl, rfl, rfl, rfl, rfl, rfl⟩ rfl hr id (.refl _) rfl id

theorem change_of_transfer {r : Run σ} {ready : Readiness} {result : Except Failure Unit}
    {c' : Connection (Recorded σ)} {s s' : Recorded σ} {taken requests messages replies : Bytes}
    (hr : r.Tied) (hs : r.connection.socket = some s)
    (h : Connection.Transfer result r.connection c' s s' taken requests messages replies)
    {socket : Option (Recorded σ)} (failure : Option Failure) (watcher : Option Watcher)
    (hsocket : socket = some s' ∧ result = .ok () ∨ socket = none) :
    Change (.service ready) r
      ⟨{ c' with socket, failure, watcher }, s',
        r.log ++ .ofRequest (r.connection.phase.asked c'.phase)⟩
      (.ofRequest (r.connection.phase.asked c'.phase)) taken requests messages replies where
  log := rfl
  tied := by
    intro s'' hs''
    rcases hsocket with ⟨hsome, -⟩ | hnone
    · exact Option.some.inj (hsome.symm.trans hs'')
    · exact nomatch hnone.symm.trans hs''
  closed := by
    rw [hs]
    exact nofun
  carried := by
    rw [hr s hs]
    exact h.carried
  outbound := by
    rw [Log.accepted_ofRequest]
    exact (List.append_nil _).trans h.outbound
  sent := by
    rw [h.outbound]
    exact List.prefix_append ..
  handshake := by
    rw [Log.requests_ofRequest]
    exact h.handshake
  inbound := by
    rw [Log.output_ofRequest, List.append_nil]
    exact h.inbound
  requests := h.requests
  messages := h.messages.imp id fun hm => ⟨hm.1, hm.2, by rw [hs]; rfl⟩
  failedWrites := by
    -- a write that fails is a failure of the work, so the socket was closed
    rw [hr s hs]
    refine h.failedWrites.imp id fun hf => ⟨?_, hf.2⟩
    rcases hsocket with ⟨-, hresult⟩ | hnone
    · exact absurd hresult hf.1
    · exact hnone
  leads := by
    refine ⟨result, fun hopen => ?_, h.leads⟩
    rcases hsocket with ⟨-, hresult⟩ | hnone
    · exact hresult
    · change socket.isSome = true at hopen
      rw [hnone] at hopen
      cases hopen
  framing := h.framing
  overflowed := by
    rw [Log.hasDrop_ofRequest, Bool.or_false]
    exact h.overflowed
  prompter := by
    intro hp
    change c'.prompter.isSome = true
    rwa [h.prompter]
  received raw message hm := (Log.received_notMem_ofRequest _ _ _ hm).elim
  handedOut bs hm := (Log.handedOut_notMem_ofRequest _ _ hm).elim
  queued := .inl (Log.accepted_ofRequest _)

variable [Transport σ]

theorem step_of_last {r : Run σ} {m : Move σ} {events : Log} {c' : Connection (Recorded σ)}
    {told : List (Notice (Recorded σ))} {s' : Recorded σ}
    (he : m.effect r.connection = ⟨events, c', told⟩)
    (hlast : c'.socket.or (closedSockets told).getLast? = some s') :
    r.step m = ⟨c', s', r.log ++ events⟩ := by
  unfold step
  rw [he]
  unfold Effect.lastSocket
  dsimp only
  rw [hlast, Option.getD_some]

theorem step_of_quiet {r : Run σ} {m : Move σ} {events : Log} {c' : Connection (Recorded σ)}
    {told : List (Notice (Recorded σ))} (hr : r.Tied)
    (he : m.effect r.connection = ⟨events, c', told⟩) (hquiet : closedSockets told = [])
    (hsocket : c'.socket = r.connection.socket) :
    r.step m = ⟨c', r.socket, r.log ++ events⟩ ∧ (r.step m).Tied := by
  have hlast : c'.socket.getD r.socket = r.socket := by
    rw [hsocket]
    cases hs : r.connection.socket with
    | none => rfl
    | some s => exact (hr s hs).symm
  have hstep : r.step m = ⟨c', r.socket, r.log ++ events⟩ := by
    unfold step
    rw [he]
    dsimp only
    rw [Effect.lastSocket_of_quiet hquiet]
    dsimp only
    rw [hlast]
  refine ⟨hstep, ?_⟩
  rw [hstep]
  intro s hs
  exact hr s (hsocket ▸ hs)

theorem change_unlogged {r : Run σ} {m : Move σ} {c' : Connection (Recorded σ)}
    {told : List (Notice (Recorded σ))} (hr : r.Tied)
    (he : m.effect r.connection = ⟨[], c', told⟩) (hquiet : closedSockets told = [])
    (hsocket : c'.socket = r.connection.socket) (halike : Alike r.connection c')
    (hprompter : r.connection.prompter.isSome = true → c'.prompter.isSome = true) :
    ∃ events, Change m r (r.step m) events [] [] [] [] := by
  obtain ⟨hstep, htied⟩ := step_of_quiet hr he hquiet hsocket
  rw [hstep] at htied ⊢
  exact ⟨[], change_of_alike halike (List.append_nil _) htied (fun hs => hsocket.trans hs)
    (.refl _) rfl hprompter⟩

theorem change_queue {r : Run σ} (hr : r.Tied) (message : Bytes) :
    ∃ events, Change (.queue message) r (r.step (.queue message)) events [] [] [] [] := by
  rcases r.connection.queue_cases message with
    ⟨watcher, outbound, told, hout, hquiet, hqueue⟩ | ⟨f, watcher, told, hquiet, hqueue⟩
  · have he : (Move.queue message).effect r.connection = ⟨[.queued message],
        { r.connection with watcher, outbound }, told⟩ := by
      simp only [Move.effect, hqueue]
    obtain ⟨hstep, htied⟩ := step_of_quiet hr he hquiet rfl
    rw [hstep] at htied ⊢
    exact ⟨[.queued message], { change_none .next hr with
      log := rfl
      tied := htied
      outbound := by
        rw [List.nil_append, ByteQueue.bytes_append hout]
        exact congrArg _ (Framing.stream_singleton ..)
      failedWrites := .inl rfl
      received := by simp
      handedOut := by simp
      queued := .inr ⟨message, rfl⟩ }⟩
  · have he : (Move.queue message).effect r.connection = ⟨[.dropped message],
        { r.connection with watcher, overflowed := true }, told⟩ := by
      simp only [Move.effect, hqueue]
    obtain ⟨hstep, htied⟩ := step_of_quiet hr he hquiet rfl
    rw [hstep] at htied ⊢
    exact ⟨[.dropped message], { change_none .next hr with
      log := rfl
      tied := htied
      overflowed := (Bool.or_true _).symm
      received := by simp
      handedOut := by simp
      queued := .inl rfl }⟩

theorem change_submit {r : Run σ} (hr : r.Tied) (user password : String) :
    ∃ events, Change (.submit user password) r (r.step (.submit user password)) events
      [] [] [] [] := by
  rcases r.connection.submit_cases user password with
    ⟨n, frame, watcher, handshake, told, hn, -, hframe, hout, hquiet, hsubmit⟩ |
    ⟨f, failure, watcher, told, hquiet, -, hsubmit⟩
  · have he : (Move.submit user password).effect r.connection = ⟨.ofRequest frame,
        { r.connection with watcher, handshake
                            phase := r.connection.phase.withNegotiation
                              { n with awaiting := false } }, told⟩ := by
      simp only [Move.effect, hsubmit, hframe]
    obtain ⟨hstep, htied⟩ := step_of_quiet hr he hquiet rfl
    rw [hstep] at htied ⊢
    exact ⟨.ofRequest frame, { change_none .next hr with
      log := rfl
      tied := htied
      outbound := by
        rw [Log.accepted_ofRequest]
        exact List.append_nil _
      handshake := by
        rw [Log.requests_ofRequest, List.nil_append, ByteQueue.bytes_append hout]
      inbound := by
        rw [Log.output_ofRequest]
        exact List.append_nil _
      closed := fun hs => ⟨hs, fun hp => by
        rwa [Phase.withNegotiation_eq_connected] at hp⟩
      leads := ⟨.ok (), fun _ => rfl, .answered hn rfl⟩
      overflowed := by
        rw [Log.hasDrop_ofRequest, Bool.or_false]
      received := fun raw message h => (Log.received_notMem_ofRequest _ _ _ h).elim
      handedOut := fun bs h => (Log.handedOut_notMem_ofRequest _ _ h).elim
      queued := .inl (Log.accepted_ofRequest _) }⟩
  · have he : (Move.submit user password).effect r.connection =
        ⟨[], { r.connection with watcher, failure }, told⟩ := by
      simp only [Move.effect, hsubmit]
    exact change_unlogged hr he hquiet rfl ⟨rfl, rfl, rfl, rfl, rfl, rfl⟩ id

theorem change_next {r : Run σ} (hr : r.Tied) :
    ∃ events, Change .next r (r.step .next) events [] [] [] [] := by
  rcases r.connection.next_cases with hnext | ⟨hconnected, body, rest, hbody, hbytes, hnext⟩
  · have he : Move.next.effect r.connection = ⟨[], r.connection, []⟩ := by
      simp only [Move.effect, hnext]
    exact change_unlogged hr he rfl rfl ⟨rfl, rfl, rfl, rfl, rfl, rfl⟩ id
  · have htaken : r.connection.inbound.bytes.take (body.length + 1) =
        body ++ [r.connection.framing.terminator] := by
      rw [hbytes, List.take_length_add_append]
      rfl
    have hlength : r.connection.inbound.length -
        (r.connection.inbound.discard (body.length + 1)).length = body.length + 1 := by
      simp only [ByteQueue.length, ByteQueue.bytes_discard, List.length_drop, hbytes,
        List.length_append, List.length_cons]
      omega
    have he : Move.next.effect r.connection =
        ⟨[.received (body ++ [r.connection.framing.terminator]) (r.connection.framing.trim body)],
          { r.connection with inbound := r.connection.inbound.discard (body.length + 1) }, []⟩ := by
      simp only [Move.effect, hnext, hlength, htaken]
    obtain ⟨hstep, htied⟩ := step_of_quiet hr he rfl rfl
    rw [hstep] at htied ⊢
    refine ⟨[.received (body ++ [r.connection.framing.terminator])
      (r.connection.framing.trim body)], { change_none .next hr with
      log := rfl
      tied := htied
      outbound := List.append_nil _
      inbound := ?_
      received := ?_
      handedOut := by simp
      queued := .inl rfl }⟩
    · rw [← htaken]
      simp [Log.output, Event.output]
    · intro raw message hmem
      cases List.mem_singleton.1 hmem
      exact ⟨by simpa [Connection.isConnected] using hconnected, body, hbody, rfl, rfl⟩

theorem change_take {r : Run σ} (hr : r.Tied) (n : Nat) :
    ∃ events, Change (.take n) r (r.step (.take n)) events [] [] [] [] := by
  rcases r.connection.take_cases n with htake | ⟨hle, htake⟩
  · have he : (Move.take n).effect r.connection = ⟨[], r.connection, []⟩ := by
      simp only [Move.effect, htake]
    exact change_unlogged hr he rfl rfl ⟨rfl, rfl, rfl, rfl, rfl, rfl⟩ id
  · have he : (Move.take n).effect r.connection = ⟨[.handedOut (r.connection.inbound.bytes.take n)],
        { r.connection with inbound := r.connection.inbound.discard n }, []⟩ := by
      simp only [Move.effect, htake]
    obtain ⟨hstep, htied⟩ := step_of_quiet hr he rfl rfl
    rw [hstep] at htied ⊢
    refine ⟨[.handedOut (r.connection.inbound.bytes.take n)], { change_none .next hr with
      log := rfl
      tied := htied
      outbound := List.append_nil _
      inbound := ?_
      received := by simp
      handedOut := fun _ _ => ⟨n, rfl⟩
      queued := .inl rfl }⟩
    simp [Log.output, Event.output]

theorem change_setWatcher {r : Run σ} (hr : r.Tied) (listener : Nat) :
    ∃ events, Change (.setWatcher listener) r (r.step (.setWatcher listener)) events
      [] [] [] [] := by
  obtain ⟨watcher, told, hquiet, hset⟩ := r.connection.setWatcher_eq listener
  have he : (Move.setWatcher listener).effect r.connection =
      ⟨[], { r.connection with watcher }, told⟩ := by
    simp only [Move.effect, hset]
  exact change_unlogged hr he hquiet rfl ⟨rfl, rfl, rfl, rfl, rfl, rfl⟩ id

theorem change_setPrompter {r : Run σ} (hr : r.Tied) (listener : Nat) :
    ∃ events, Change (.setPrompter listener) r (r.step (.setPrompter listener)) events
      [] [] [] [] := by
  have he : (Move.setPrompter listener).effect r.connection =
      ⟨[], r.connection.setPrompter listener, []⟩ := rfl
  exact change_unlogged hr he rfl rfl ⟨rfl, rfl, rfl, rfl, rfl, rfl⟩ fun _ => rfl

theorem change_turn {r : Run σ} (hr : r.Tied) (f : σ → σ) :
    ∃ events, Change (.turn f) r (r.step (.turn f)) events [] [] [] [] := by
  have he : (Move.turn f).effect r.connection =
      ⟨[], { r.connection with socket := r.connection.socket.map (·.turn f) }, []⟩ := rfl
  cases hs : r.connection.socket with
  | none =>
    rw [hs] at he
    exact change_unlogged hr he rfl hs.symm ⟨rfl, rfl, rfl, rfl, rfl, rfl⟩ id
  | some s =>
    rw [hs] at he
    rw [step_of_last he rfl]
    refine ⟨[], change_of_alike ⟨rfl, rfl, rfl, rfl, rfl, rfl⟩ (List.append_nil _) ?_ ?_ ?_ ?_ id⟩
    · intro s' hs'
      exact Option.some.inj hs'
    · rw [hs]
      exact nofun
    · rw [hr s hs]
      exact Recorded.carried_turn f s
    · rw [hr s hs]
      rfl

theorem change_service {r : Run σ} (hr : r.Tied) (ready : Readiness) :
    ∃ events taken requests messages replies, Change (.service ready) r
      (r.step (.service ready)) events taken requests messages replies := by
  cases hs : r.connection.socket with
  | none =>
    have he : (Move.service ready).effect r.connection = ⟨[], r.connection, []⟩ := by
      simp only [Move.effect, Connection.service_closed hs, Phase.asked_self]
      rfl
    obtain ⟨events, h⟩ := change_unlogged hr he rfl rfl ⟨rfl, rfl, rfl, rfl, rfl, rfl⟩ id
    exact ⟨events, [], [], [], [], h⟩
  | some s =>
    obtain ⟨result, c', waiting, told, hwork, hquiet, hservice⟩ :=
      Connection.service_work hs ready
    obtain ⟨s', taken, requests, messages, replies, h⟩ := Connection.transfer_work hs hwork
    obtain ⟨outcome, socket, failure, watcher, told', hfinish, hlast, hsocket⟩ :=
      Connection.finish_cases h.socket result waiting hquiet
    rw [hfinish] at hservice hlast
    unfold Effect.lastSocket at hlast
    have he : (Move.service ready).effect r.connection =
        ⟨.ofRequest (r.connection.phase.asked c'.phase),
          { c' with socket, failure, watcher }, told'⟩ := by
      simp only [Move.effect, hservice]
    rw [step_of_last he hlast]
    exact ⟨_, taken, requests, messages, replies,
      change_of_transfer hr hs h failure watcher hsocket⟩

theorem change_step {r : Run σ} (hr : r.Tied) (m : Move σ) :
    ∃ events taken requests messages replies,
      Change m r (r.step m) events taken requests messages replies := by
  cases m with
  | queue message =>
    obtain ⟨events, h⟩ := change_queue hr message
    exact ⟨events, [], [], [], [], h⟩
  | submit user password =>
    obtain ⟨events, h⟩ := change_submit hr user password
    exact ⟨events, [], [], [], [], h⟩
  | service ready => exact change_service hr ready
  | next =>
    obtain ⟨events, h⟩ := change_next hr
    exact ⟨events, [], [], [], [], h⟩
  | take n =>
    obtain ⟨events, h⟩ := change_take hr n
    exact ⟨events, [], [], [], [], h⟩
  | setWatcher listener =>
    obtain ⟨events, h⟩ := change_setWatcher hr listener
    exact ⟨events, [], [], [], [], h⟩
  | setPrompter listener =>
    obtain ⟨events, h⟩ := change_setPrompter hr listener
    exact ⟨events, [], [], [], [], h⟩
  | turn f =>
    obtain ⟨events, h⟩ := change_turn hr f
    exact ⟨events, [], [], [], [], h⟩

theorem run_induction {P : Run σ → Prop} (htied : ∀ r, P r → r.Tied) {ms : List (Move σ)}
    (hstep : ∀ {r r' m events taken requests messages replies}, m ∈ ms → P r →
      Change m r r' events taken requests messages replies → P r')
    {r : Run σ} (h : P r) : P (r.run ms) := by
  induction ms generalizing r with
  | nil => exact h
  | cons m ms ih =>
    obtain ⟨events, taken, requests, messages, replies, hc⟩ := change_step (htied r h) m
    have hfirst : P (r.step m) := hstep List.mem_cons_self h hc
    exact ih (fun hm => hstep (List.mem_cons_of_mem m hm)) hfirst

theorem carried_run {r : Run σ} (htied : r.Tied) (ms : List (Move σ)) : (r.run ms).Tied ∧
    ∃ taken accepted, Recorded.Carried r.socket (r.run ms).socket taken accepted := by
  refine run_induction (P := fun r' => r'.Tied ∧
    ∃ taken accepted, Recorded.Carried r.socket r'.socket taken accepted) (fun _ h => h.1) ?_
    ⟨htied, [], [], .refl _⟩
  rintro r' r'' m events taken requests messages replies - ⟨-, t, a, hcarried⟩ hc
  exact ⟨hc.tied, _, _, hcarried.trans hc.carried⟩

theorem connected_run {r : Run σ} (htied : r.Tied)
    (hconnected : r.connection.phase = .connected) (ms : List (Move σ)) :
    (r.run ms).connection.phase = .connected := by
  refine (run_induction (P := fun r => r.Tied ∧ r.connection.phase = .connected) (fun _ h => h.1)
    ?_ ⟨htied, hconnected⟩).2
  rintro r r' m events taken requests messages replies - ⟨-, hphase⟩ hc
  obtain ⟨result, -, hleads⟩ := hc.leads
  exact ⟨hc.tied, (hleads.connected_of hphase).2⟩

end LineTunnel.Run
