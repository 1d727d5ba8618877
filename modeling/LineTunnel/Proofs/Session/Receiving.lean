import LineTunnel.Proofs.Connection.Reading
import LineTunnel.Proofs.Connection.Tunnel
import LineTunnel.Proofs.Session.Connecting
import LineTunnel.Proofs.Session.Sending

/-! What a session receives after it has connected: the messages of the stream behind what the proxy
said, in their order, whether their bytes were read to receive or while something was sent. Only
when no message waits does it answer that there is none, or that the connection has gone; and this
it then answers for good. -/

namespace LineTunnel

open Socks (Granted)

variable {σ : Type}

def GrantedBy (canPrompt : Bool) : Option Socks.Server → Bytes → Prop
  | none, bs => bs = []
  | some server, bs => Granted canPrompt server.version bs

namespace Phase

theorem Leads.eq_nil_of_direct {canPrompt : Bool} {result : Except Failure Unit} {p p' : Phase}
    {bs : Bytes} (h : Leads canPrompt result p bs p') (hp : p.negotiation? = none) : bs = [] := by
  cases h with
  | same hdirect => rfl
  | opened => rfl
  | reopened hstage => rfl
  | negotiating hversion hheard => cases hp
  | connected hgranted => cases hp

end Phase

namespace Run

structure Direct (f : Framing) (r : Run σ) : Prop where
  tied : r.Tied
  framing : r.connection.framing = f
  direct : r.connection.phase.negotiation? = none
  taken : r.socket.taken = r.log.output ++ r.connection.inbound.bytes
  cut : r.log.CutBy f

variable {f : Framing} {r r' : Run σ} {m : Move σ} {events : Log}
  {taken requests messages replies : Bytes}

theorem Direct.change (h : Direct f r)
    (hc : Change m r r' events taken requests messages replies) : Direct f r' := by
  obtain ⟨result, -, hleads⟩ := hc.leads
  obtain rfl := hleads.eq_nil_of_direct h.direct
  have hnothing : r.socket.taken = [] ++ r.log.output ++ r.connection.inbound.bytes := h.taken
  have htaken := hc.taken_eq hnothing (.inr rfl)
  refine ⟨hc.tied, hc.framing.trans h.framing, hleads.negotiation?_eq_none h.direct, htaken, ?_⟩
  rw [hc.log]
  exact h.cut.append (h.framing ▸ hc.cutBy)

theorem Direct.forwards (h : Direct f r) (hconnected : r.connection.phase = .connected) :
    Forwards f [] r where
  tied := h.tied
  framing := h.framing
  connected := hconnected
  taken := h.taken
  cut := h.cut

theorem direct_dial {machine : Machine σ} {bindAddress : Option String} {host : String}
    {port : UInt16} {c : Connection (Recorded σ)} (hserver : c.server = none)
    (hr : dial machine bindAddress host port c = some r) : Direct c.framing r := by
  have hfresh := fresh_dial hr
  have hdirect := (Begun.dialed hr).direct (by rw [hserver]; rfl)
  obtain ⟨stream, watcher, opening, phase, handshake, rfl, -⟩ := dial_eq_some hr
  refine ⟨hfresh.tied, rfl, hdirect.1, ?_,
    fun raw message hmem => (hfresh.received raw message hmem).elim⟩
  rw [hfresh.output]
  rfl

variable [Transport σ]

theorem Direct.run (h : Direct f r) (ms : List (Move σ)) : Direct f (r.run ms) :=
  run_induction (fun _ h => h.tied) (fun _ h hc => h.change hc) h

theorem forwards_of_connected {machine : Machine σ} {bindAddress : Option String} {host : String}
    {port : UInt16} {c : Connection (Recorded σ)}
    (hr : dial machine bindAddress host port c = some r) {ms : List (Move σ)}
    (hms : ∀ m ∈ ms, ∀ n, m ≠ .take n) (hconnected : (r.run ms).connection.phase = .connected) :
    ∃ granted, GrantedBy (r.run ms).connection.prompter.isSome c.server granted ∧
      Forwards c.framing granted (r.run ms) := by
  cases hserver : c.server with
  | none =>
    have hdirect := (direct_dial hserver hr).run ms
    exact ⟨[], rfl, hdirect.forwards hconnected⟩
  | some server =>
    obtain ⟨granted, h⟩ := (parsed_dial hserver hr).run hms
    refine ⟨granted, ?_, h.forwards hconnected⟩
    have hagrees := h.agrees.resolve_right fun hgone => hgone.2 hconnected
    rw [hconnected] at hagrees
    exact hagrees

theorem untaken_run (htied : r.Tied) (hlog : ∀ bs, .handedOut bs ∉ r.log) {ms : List (Move σ)}
    (hms : ∀ m ∈ ms, ∀ n, m ≠ .take n) : ∀ bs, .handedOut bs ∉ (r.run ms).log := by
  refine (run_induction (P := fun r => r.Tied ∧ ∀ bs, .handedOut bs ∉ r.log)
    (fun _ h => h.1) ?_ ⟨htied, hlog⟩).2
  rintro r r' m events taken requests messages replies hm ⟨-, huntaken⟩ hc
  refine ⟨hc.tied, fun bs hmem => ?_⟩
  rw [hc.log] at hmem
  rcases List.mem_append.1 hmem with hold | hnew
  · exact huntaken bs hold
  · obtain ⟨n, hn⟩ := hc.handedOut bs hnew
    exact hms m hm n hn

theorem returned_step (hm : m ≠ .next) (r : Run σ) :
    (r.step m).log.returned = r.log.returned := by
  have hevents : Log.returned (m.effect r.connection).answer = [] := by
    cases m with
    | next => exact absurd rfl hm
    | queue message =>
      dsimp only [Move.effect]
      split <;> rfl
    | submit user password =>
      dsimp only [Move.effect]
      split
      · exact Log.returned_ofRequest _
      · rfl
    | service ready => exact Log.returned_ofRequest _
    | take n =>
      dsimp only [Move.effect]
      split <;> rfl
    | setWatcher listener => rfl
    | setPrompter listener => rfl
    | turn f => rfl
  change Log.returned (r.log ++ (m.effect r.connection).answer) = _
  rw [Log.returned_append, hevents, List.append_nil]

theorem returned_run {ms : List (Move σ)} (hms : ∀ m ∈ ms, m ≠ .next) (r : Run σ) :
    (r.run ms).log.returned = r.log.returned := by
  induction ms generalizing r with
  | nil => rfl
  | cons m ms ih =>
    have hfirst := returned_step (hms m List.mem_cons_self) r
    have hrest := ih (fun m hm => hms m (List.mem_cons_of_mem _ hm)) (r.step m)
    exact hrest.trans hfirst

theorem step_next (r : Run σ) :
    (r.step .next).connection = r.connection.next.2 ∧
      (r.step .next).log.returned = r.log.returned ++ r.connection.next.1.toList := by
  have hlog : (r.step .next).log = r.log ++ (Move.next.effect r.connection).answer := rfl
  have hafter : (r.step .next).connection = (Move.next.effect r.connection).after := rfl
  rw [hlog, hafter, Log.returned_append]
  dsimp only [Move.effect]
  rcases r.connection.next with ⟨_ | message, c'⟩ <;> exact ⟨rfl, rfl⟩

end Run

namespace Session

def Call.recorded : Call σ → Call (Recorded σ)
  | send message turns => .send message (turns.map Recorded.turn)
  | receive turns => .receive (turns.map Recorded.turn)
  | close => .close

theorem phase_of_dialed? {s : Session σ} (h : s.dialed? = some (.ok ())) :
    s.connection.phase = .connected := by
  unfold dialed? at h
  split at h
  · next hconnected => simpa [Connection.isConnected] using hconnected
  · split at h <;> cases h

variable [Pollable σ]

def message? (s : Session σ) : Call σ → Option Bytes
  | .receive turns => (s.receive turns).1.toOption.join
  | _ => none

def receivedBy : List (Call σ) → Session σ → List Bytes
  | [], _ => []
  | call :: calls, s => (s.message? call).toList ++ receivedBy calls (s.perform call)

def callMoves (s : Session (Recorded σ)) : Call σ → List (Move σ)
  | .send message turns => if s.connection.isActive then s.sendMoves message turns else []
  | .receive turns => awaitMoves received? turns s ++ [.next]
  | .close => []

def callsMoves : List (Call σ) → Session (Recorded σ) → List (Move σ)
  | [], _ => []
  | call :: calls, s => s.callMoves call ++ callsMoves calls (s.perform call.recorded)

variable {r : Run σ} {s : Session (Recorded σ)}

theorem run_send (h : r.connection = s.connection) (hactive : s.connection.isActive = true)
    (message : Bytes) (turns : List (Turn σ)) : (r.run (s.sendMoves message turns)).connection =
      (s.send message (turns.map Recorded.turn)).2.connection := by
  have hqueued : (r.step (.queue message)).connection = (s.connection.queue message).after := by
    rw [← h]
    change ((Move.queue message).effect r.connection).after = _
    dsimp only [Move.effect]
    split <;> rfl
  unfold sendMoves send post
  rw [if_pos hactive]
  dsimp only
  cases (s.connection.queue message).answer with
  | error f => exact hqueued
  | ok u =>
    obtain ⟨s', hawait, hrun⟩ := await_flushed? turns
      (s := { s with connection := (s.connection.queue message).after }) hqueued
    unfold flushed? at hawait
    dsimp only [Except.mapError]
    rw [hawait]
    cases s'.isFlushed <;> exact hrun

theorem run_receive (h : r.connection = s.connection) (turns : List (Turn σ)) :
    (r.run (s.callMoves (.receive turns))).connection =
        (s.receive (turns.map Recorded.turn)).2.connection ∧
      (r.run (s.callMoves (.receive turns))).log.returned =
        r.log.returned ++ (s.message? (.receive (turns.map Recorded.turn))).toList := by
  obtain ⟨s', hrun, hawait⟩ := await_moves received? turns h
  obtain ⟨hconnection, hreturned⟩ := (r.run (awaitMoves received? turns s)).step_next
  have hquiet : (r.run (awaitMoves received? turns s)).log.returned = r.log.returned := by
    exact Run.returned_run (fun m hm => (waits_of_mem_awaitMoves turns hm).ne_next) r
  unfold callMoves message?
  dsimp only
  rw [Run.run_append]
  change ((Run.run r (awaitMoves received? turns s)).step .next).connection = _ ∧
    ((Run.run r (awaitMoves received? turns s)).step .next).log.returned = _
  rw [hconnection, hreturned, hquiet, hrun]
  rcases receive_of_await hawait with
    ⟨message, connection, hnext, hreceive⟩ | ⟨hnext, ⟨-, hreceive⟩ | ⟨-, hreceive⟩⟩ <;>
  · rw [hreceive, hnext]
    exact ⟨rfl, rfl⟩

theorem run_callMoves (h : r.connection = s.connection) {call : Call σ} (hcall : call ≠ .close) :
    (r.run (s.callMoves call)).connection = (s.perform call.recorded).connection ∧
      (r.run (s.callMoves call)).log.returned =
        r.log.returned ++ (s.message? call.recorded).toList := by
  cases call with
  | close => exact absurd rfl hcall
  | receive turns => exact run_receive h turns
  | send message turns =>
    change (r.run (s.callMoves (.send message turns))).connection =
        (s.send message (turns.map Recorded.turn)).2.connection ∧
      (r.run (s.callMoves (.send message turns))).log.returned = r.log.returned ++ []
    unfold callMoves
    rw [List.append_nil]
    cases hactive : s.connection.isActive with
    | true =>
      refine ⟨run_send h hactive message turns, Run.returned_run (fun m hm => ?_) r⟩
      simp only [if_true] at hm
      rcases mem_sendMoves hm with rfl | hwaits
      · exact nofun
      · exact hwaits.ne_next
    | false =>
      unfold send post
      rw [if_neg (by simp [hactive])]
      exact ⟨h, rfl⟩

theorem ne_take_of_mem_callMoves {m : Move σ} {call : Call σ} (hm : m ∈ s.callMoves call)
    (n : Nat) : m ≠ .take n := by
  unfold callMoves at hm
  cases call with
  | close => cases hm
  | receive turns =>
    rcases List.mem_append.1 hm with hwaits | hnext
    · exact (waits_of_mem_awaitMoves turns hwaits).ne_take n
    · cases List.mem_singleton.1 hnext
      exact nofun
  | send message turns =>
    dsimp only at hm
    split at hm
    · rcases mem_sendMoves hm with rfl | hwaits
      · exact nofun
      · exact hwaits.ne_take n
    · cases hm

theorem ne_take_of_mem_callsMoves {m : Move σ} {calls : List (Call σ)}
    (hm : m ∈ s.callsMoves calls) (n : Nat) : m ≠ .take n := by
  induction calls generalizing s with
  | nil => cases hm
  | cons call calls ih =>
    rcases List.mem_append.1 hm with hnow | hlater
    · exact ne_take_of_mem_callMoves hnow n
    · exact ih hlater

theorem run_callsMoves (h : r.connection = s.connection) {calls : List (Call σ)}
    (hcalls : .close ∉ calls) :
    (r.run (s.callsMoves calls)).connection =
        (s.after (calls.map Call.recorded)).connection ∧
      (r.run (s.callsMoves calls)).log.returned =
        r.log.returned ++ s.receivedBy (calls.map Call.recorded) := by
  induction calls generalizing r s with
  | nil => exact ⟨h, (List.append_nil _).symm⟩
  | cons call calls ih =>
    have hcall : call ≠ .close := fun heq => hcalls (heq ▸ List.mem_cons_self)
    have hrest : .close ∉ calls := fun hmem => hcalls (List.mem_cons_of_mem call hmem)
    obtain ⟨hconnection, hreturned⟩ := run_callMoves h hcall
    obtain ⟨hafter, hall⟩ := ih hconnection hrest
    unfold callsMoves
    rw [Run.run_append, hafter, hall, hreturned, List.append_assoc]
    exact ⟨rfl, rfl⟩

def reached (s : Session (Recorded σ)) (calls : List (Call σ)) : Session (Recorded σ) :=
  s.after (calls.map Call.recorded)

/-- How these calls fare on a session that has become connected by a run, and the next receive after
them. -/
structure Receives (granted : Bytes) (s : Session (Recorded σ)) (r : Run σ)
    (calls : List (Call σ)) : Prop where
  connection : (r.run (s.callsMoves calls)).connection = (s.reached calls).connection
  messages : ∃ heard, (r.run (s.callsMoves calls)).socket.taken = granted ++ heard ∧
    s.connection.framing.messages heard = s.receivedBy (calls.map Call.recorded) ++
      s.connection.framing.messages (s.reached calls).connection.inbound.bytes
  unanswered : ∀ (turns : List (Turn σ)) (answer : Except SessionError (Option Bytes))
    (s' : Session (Recorded σ)),
    (s.reached calls).receive (turns.map Recorded.turn) = (answer, s') →
    (∀ message, answer ≠ .ok (some message)) →
    s.connection.framing.terminator ∉ s'.connection.inbound.bytes
  failed : ∀ (turns : List (Turn σ)) (e : SessionError) (s' : Session (Recorded σ)),
    (s.reached calls).receive (turns.map Recorded.turn) = (.error e, s') →
    s'.connection.isActive = false ∧ ∀ later, .close ∉ later →
      (∀ turns, ((s'.after later).receive turns).1 = .error e) ∧
      ∀ message turns, ((s'.after later).send message turns).1 = .error .notConnected

variable {f : Framing} {granted : Bytes}

theorem messages_of_forwards (h : r.connection = s.connection) (hr : r.Forwards f granted)
    (huntaken : ∀ bs, .handedOut bs ∉ r.log) (hreturned : r.log.returned = [])
    {calls : List (Call σ)} (hcalls : .close ∉ calls) :
    ∃ heard, (r.run (s.callsMoves calls)).socket.taken = granted ++ heard ∧
      f.messages heard = s.receivedBy (calls.map Call.recorded) ++
        f.messages (s.reached calls).connection.inbound.bytes := by
  obtain ⟨hconnection, hall⟩ := run_callsMoves h hcalls
  have hend := hr.run (s.callsMoves calls)
  have hkept : ∀ bs, .handedOut bs ∉ (r.run (s.callsMoves calls)).log :=
    Run.untaken_run hr.tied huntaken fun m hm => ne_take_of_mem_callsMoves hm
  refine ⟨_, by rw [hend.taken, List.append_assoc], ?_⟩
  rw [hend.cut.messages_append hkept, hall, hreturned, hconnection]
  rfl

theorem notMem_of_receive (h : r.connection = s.connection) (hr : r.Forwards f granted)
    {turns : List (Turn σ)} {answer : Except SessionError (Option Bytes)}
    {s' : Session (Recorded σ)}
    (hreceive : s.receive (turns.map Recorded.turn) = (answer, s'))
    (hnone : ∀ message, answer ≠ .ok (some message)) :
    f.terminator ∉ s'.connection.inbound.bytes := by
  obtain ⟨s'', hrun, hawait⟩ := await_moves received? turns h
  have hend := hr.run (awaitMoves received? turns s)
  have hempty (hnext : s''.connection.next = (none, s''.connection)) :
      f.terminator ∉ s''.connection.inbound.bytes := by
    have hnotMem := Connection.notMem_of_next (hrun ▸ hend.connected) hnext
    rwa [← hrun, hend.framing, hrun] at hnotMem
  rcases receive_of_await hawait with
    ⟨message, connection, -, hother⟩ | ⟨hnext, ⟨-, hother⟩ | ⟨-, hother⟩⟩
  · cases hreceive.symm.trans hother
    exact absurd rfl (hnone message)
  · cases hreceive.symm.trans hother
    exact hempty hnext
  · cases hreceive.symm.trans hother
    exact hempty hnext

theorem receives_of_forwards (h : r.connection = s.connection) (hr : r.Forwards f granted)
    (huntaken : ∀ bs, .handedOut bs ∉ r.log) (hreturned : r.log.returned = [])
    {calls : List (Call σ)} (hcalls : .close ∉ calls) : s.Receives granted r calls := by
  have hframing : s.connection.framing = f := h ▸ hr.framing
  obtain ⟨hconnection, -⟩ := run_callsMoves h hcalls
  refine ⟨hconnection, ?messages, ?unanswered, ?failed⟩
  case messages =>
    rw [hframing]
    exact messages_of_forwards h hr huntaken hreturned hcalls
  case unanswered =>
    intro turns answer s' hreceive hnone
    rw [hframing]
    exact notMem_of_receive hconnection (hr.run _) hreceive hnone
  case failed =>
    intro turns e s' hreceive
    obtain ⟨hspent, rfl⟩ := spent_of_receive hreceive
    refine ⟨hspent.closed, fun later hlater => ?_⟩
    rw [hspent.after hlater]
    exact ⟨fun turns => congrArg Prod.fst (hspent.receive turns),
      fun message turns => congrArg Prod.fst (hspent.send message turns)⟩

/-- A session that has connected got what the proxy said when it granted the tunnel, if there is
one, and from then on its receives return the messages of the stream. -/
theorem receives_of_connect {machine : Machine σ} {turns : List (Turn σ)}
    {s' : Session (Recorded σ)}
    (hconnect : s.connect machine.recorded (turns.map Recorded.turn) = (.ok (), s')) :
    ∃ r granted, s.dialRun machine = some r ∧
      GrantedBy s'.connection.prompter.isSome s.connection.server granted ∧
      ∀ calls, .close ∉ calls →
        s'.Receives granted (r.run (s.connectMoves machine turns)) calls := by
  rcases connect_cases (P := fun r s => r.connection = s.connection)
    (fun turn _ _ h => run_turnMoves h turn) machine turns
    (fun r hr => connection_dialRun hr) with ⟨f, hfailed, -⟩ | ⟨r, ended, hr, hrun, hended⟩
  · cases hconnect.symm.trans hfailed
  · obtain ⟨hconnected, rfl⟩ : ended.connection.phase = .connected ∧ ended = s' := by
      rw [hended] at hconnect
      split at hconnect
      · next answer hdialed =>
        cases hconnect
        exact ⟨phase_of_dialed? hdialed, rfl⟩
      · cases hconnect
    have hwaits : ∀ m ∈ s.connectMoves machine turns, Waits m :=
      fun m hm => waits_of_mem_awaitMoves turns hm
    have htake : ∀ m ∈ s.connectMoves machine turns, ∀ n, m ≠ .take n :=
      fun m hm => (hwaits m hm).ne_take
    obtain ⟨granted, hgranted, hforwards⟩ :=
      Run.forwards_of_connected hr htake (hrun ▸ hconnected)
    have hquiet : r.log.returned = [] ∧ ∀ bs, .handedOut bs ∉ r.log := by
      obtain ⟨stream, watcher, opening, phase, handshake, rfl, -⟩ := Run.dial_eq_some hr
      exact ⟨Log.returned_ofRequest _, Log.handedOut_notMem_ofRequest _⟩
    have huntaken := Run.untaken_run (Run.fresh_dial hr).tied hquiet.2 htake
    have hreturned := Run.returned_run (fun m hm => (hwaits m hm).ne_next) r
    rw [hquiet.1] at hreturned
    exact ⟨r, granted, hr, hrun ▸ hgranted,
      fun calls hcalls => receives_of_forwards hrun hforwards huntaken hreturned hcalls⟩

theorem connect_of_dial {machine : Machine σ} {s s' : Session σ} {turns : List (Turn σ)}
    {answer : Except SessionError Unit} (hdial : s.dial machine = (.ok (), s'))
    (hawait : (s'.await (fun s => s.dialed?.map (·, s)) turns).1 = some answer) :
    s.connect machine turns = (answer, (s'.await (fun s => s.dialed?.map (·, s)) turns).2) := by
  unfold connect
  rw [hdial]
  dsimp only
  split
  · next hended =>
    rw [hended] at hawait ⊢
    cases hawait
    rfl
  · next hended =>
    rw [hended] at hawait
    cases hawait

def proxied : Session (Recorded Link) :=
  ⟨{}, .create ⟨10, some 13⟩ (some { name := "p", port := 1080, version := .v5 })⟩

def proxiedOver (link : Link) : Session (Recorded Link) where
  config := {}
  connection := { proxied.connection with
    socket := some { stream := link }
    phase := .negotiating { stage := .v5 .methods, host := "127.0.0.1", port := 7902 }
    handshake := ⟨[5, 1, 0], List.replicate 253 0, 65536⟩ }

set_option maxRecDepth 4000 in
theorem dial_proxied (link : Link) :
    proxied.dial (linking link).recorded = (.ok (), proxiedOver link) := by with_unfolding_all rfl

set_option maxRecDepth 8000 in
theorem receives_of_connect_while_sending :
    let machine := linking { inbox := [5, 0, 5, 0, 0, 1, 1, 2, 3, 4, 5, 6, 104, 13, 10, 105] }
    let leaving (l : Link) : Link := { l with inbox := l.inbox ++ [10, 106], finished := true }
    let calls : List (Call Link) := [.send [97] [leaving, id], .receive [], .receive []]
    ∃ s, proxied.connect machine.recorded ([id, id].map Recorded.turn) = (.ok (), s) ∧
      s.receivedBy (calls.map Call.recorded) = [[104], [105]] ∧
      (s.reached calls).connection.inbound.bytes = [106] ∧
      ((s.reached calls).receive []).1.toOption = none ∧
      ∃ r granted, proxied.dialRun machine = some r ∧
        GrantedBy s.connection.prompter.isSome proxied.connection.server granted ∧
        s.Receives granted (r.run (proxied.connectMoves machine [id, id])) calls := by
  intro machine leaving calls
  have hconnect : proxied.connect machine.recorded ([id, id].map Recorded.turn) = (.ok (), _) :=
    connect_of_dial (dial_proxied _) (by with_unfolding_all rfl)
  obtain ⟨r, granted, hr, hgranted, hcalls⟩ := receives_of_connect hconnect
  exact ⟨_, hconnect, by decide +kernel, by decide +kernel, by decide +kernel,
    r, granted, hr, hgranted, hcalls calls (by simp [calls])⟩

end Session

end LineTunnel
