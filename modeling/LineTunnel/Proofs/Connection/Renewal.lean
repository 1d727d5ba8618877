import LineTunnel.Proofs.Connection.Sound
import LineTunnel.Proofs.Connection.Watching
import LineTunnel.Transport.Recorded

/-! A shutdown leaves nothing behind: the connection is as it was created, but for its listeners.
Since every new connection begins with one, what it does and what it tells do not depend on any
connection before it. -/

namespace LineTunnel

variable {σ α : Type}

namespace Operation

def prompter? : Operation σ → Option Nat
  | setPrompter listener => some listener
  | _ => none

def prompters (ops : List (Operation σ)) : List Nat := ops.filterMap prompter?

theorem prompters_cons (op : Operation σ) (ops : List (Operation σ)) :
    prompters (op :: ops) = op.prompter?.toList ++ prompters ops := by
  unfold prompters
  rw [List.filterMap_cons]
  cases op.prompter? <;> rfl

def renews : Operation σ → Bool
  | shutdown => true
  | adopt _ => true
  | refuse _ => true
  | startConnect _ _ _ _ => true
  | _ => false

end Operation

namespace Effect

def sent (e : Effect (Recorded σ) α) : List Bytes :=
  (closedSockets e.notices ++ e.after.socket.toList).map (·.accepted)

theorem sent_following (told : List (Notice (Recorded σ))) (e : Effect (Recorded σ) α) :
    (e.following told).sent = (closedSockets told).map (·.accepted) ++ e.sent := by
  unfold sent following
  dsimp only
  rw [closedSockets_append, List.append_assoc, List.map_append]

end Effect

namespace Connection

def createWith (framing : Framing) (server : Option Socks.Server) (watcher prompter : Option Nat) :
    Connection σ :=
  { create framing server with watcher := watcher.map ({ listener := · }), prompter }

theorem stopWatching_fst (c : Connection σ) : c.stopWatching.1 =
    { c with watcher := c.watcher.map ({ · with reported := none }) } := by
  obtain ⟨framing, server, socket, phase, inbound, outbound, handshake, failure, overflowed,
    watcher, prompter⟩ := c
  cases watcher <;> rfl

theorem after_shutdown (c : Connection σ) : c.shutdown.after = { c with
    watcher := c.watcher.map ({ · with reported := none })
    socket := none
    phase := .unconnected none
    inbound := c.inbound.reset
    outbound := c.outbound.reset
    handshake := c.handshake.reset
    failure := none
    overflowed := false } := by
  unfold shutdown closeSocket
  dsimp only
  rw [stopWatching_fst]

theorem shutdown_shutdown (c : Connection σ) :
    c.shutdown.after.shutdown = ⟨(), c.shutdown.after, []⟩ := by
  rw [after_shutdown]
  unfold shutdown closeSocket stopWatching
  cases c.watcher <;> rfl

theorem startConnect_of_error {machine : Machine σ} {bindAddress : Option String} {host : String}
    {port : UInt16} {c : Connection σ} {f : Failure}
    (h : (c.startConnect machine bindAddress host port).answer = .error f) :
    c.startConnect machine bindAddress host port =
      ⟨.error f, { c.shutdown.after with failure := some f }, c.shutdown.notices⟩ := by
  unfold startConnect at h ⊢
  dsimp only at h ⊢
  split at h
  · next f' hattempt =>
    cases h
    rfl
  · cases h

theorem Sound.after_shutdown {c : Connection σ} (h : c.Sound) : c.shutdown.after =
    createWith c.framing c.server (c.watcher.map (·.listener)) c.prompter := by
  rw [Connection.after_shutdown]
  unfold createWith create ByteQueue.reset
  rw [h.inbound.ceiling_eq, h.outbound.ceiling_eq, h.handshake.ceiling_eq, Option.map_map]
  rfl

variable [Transport σ]

theorem apply_eq (c : Connection σ) (op : Operation σ) : (c.apply op).framing = c.framing ∧
    (c.apply op).server = c.server ∧ (c.apply op).prompter = op.prompter?.or c.prompter := by
  cases op with
  | queue message =>
    rcases c.queue_cases message with ⟨watcher, outbound, told, -, -, hqueue⟩ |
      ⟨f, watcher, told, -, hqueue⟩
    all_goals
      rw [apply, hqueue]
      exact ⟨rfl, rfl, rfl⟩
  | submit user password =>
    rcases c.submit_cases user password with
      ⟨n, frame, watcher, handshake, told, -, -, -, -, -, hsubmit⟩ |
      ⟨f, failure, watcher, told, -, -, hsubmit⟩
    all_goals
      rw [apply, hsubmit]
      exact ⟨rfl, rfl, rfl⟩
  | service ready =>
    obtain ⟨socket, phase, inbound, outbound, handshake, failure, watcher, hservice⟩ :=
      c.service_eq ready
    rw [apply, hservice]
    exact ⟨rfl, rfl, rfl⟩
  | next =>
    rcases c.next_cases with hnext | ⟨-, body, rest, -, -, hnext⟩
    all_goals
      rw [apply, hnext]
      exact ⟨rfl, rfl, rfl⟩
  | take n =>
    rcases c.take_cases n with htake | ⟨-, htake⟩
    all_goals
      rw [apply, htake]
      exact ⟨rfl, rfl, rfl⟩
  | setWatcher listener =>
    obtain ⟨watcher, told, -, hset⟩ := c.setWatcher_eq listener
    rw [apply, hset]
    exact ⟨rfl, rfl, rfl⟩
  | setPrompter listener => exact ⟨rfl, rfl, rfl⟩
  | shutdown =>
    rw [apply, after_shutdown]
    exact ⟨rfl, rfl, rfl⟩
  | refuse f =>
    change c.shutdown.after.framing = _ ∧ c.shutdown.after.server = _ ∧
      c.shutdown.after.prompter = _
    rw [after_shutdown]
    exact ⟨rfl, rfl, rfl⟩
  | adopt socket =>
    obtain ⟨watcher, told, hadopt⟩ := c.adopt_eq socket
    rw [apply, hadopt]
    exact ⟨rfl, rfl, rfl⟩
  | startConnect machine bindAddress host port =>
    cases hanswer : (c.startConnect machine bindAddress host port).answer with
    | error f =>
      rw [apply, startConnect_of_error hanswer, after_shutdown]
      exact ⟨rfl, rfl, rfl⟩
    | ok u =>
      obtain ⟨watcher, opening, phase, handshake, dialed, realHost, realPort, -, -, -, hafter⟩ :=
        startConnect_eq_ok hanswer
      rw [apply, hafter]
      exact ⟨rfl, rfl, rfl⟩
  | turn f => exact ⟨rfl, rfl, rfl⟩

theorem after_eq (c : Connection σ) (ops : List (Operation σ)) :
    (c.after ops).framing = c.framing ∧ (c.after ops).server = c.server ∧
      (c.after ops).prompter = (Operation.prompters ops).getLast?.or c.prompter := by
  induction ops generalizing c with
  | nil => exact ⟨rfl, rfl, rfl⟩
  | cons op ops ih =>
    obtain ⟨hframing, hserver, hprompter⟩ := ih (c.apply op)
    obtain ⟨hframing', hserver', hprompter'⟩ := c.apply_eq op
    refine ⟨hframing.trans hframing', hserver.trans hserver', hprompter.trans ?_⟩
    rw [hprompter', Operation.prompters_cons, List.getLast?_append, Option.or_assoc]
    cases op.prompter? <;> rfl

theorem shutdown_after (framing : Framing) (server : Option Socks.Server)
    (ops : List (Operation σ)) : ((create framing server).after ops).shutdown.after =
      createWith framing server (Operation.watchers ops).getLast?
        (Operation.prompters ops).getLast? := by
  have hsound := (sound_create framing server).after ops
  have hinformed := (informed_create framing server).history ops
  rw [after_history] at hinformed
  obtain ⟨hframing, hserver, hprompter⟩ := (create framing server).after_eq ops
  rw [hsound.after_shutdown, hframing, hserver, hprompter, hinformed.current]
  exact congrArg _ (Option.or_none ..)

theorem perform_of_renews (c : Connection σ) {op : Operation σ} (hop : op.renews = true) :
    c.perform op = (c.shutdown.after.perform op).following c.shutdown.notices := by
  cases op with
  | shutdown =>
    change c.shutdown.map (fun _ => Answer.done) =
      (c.shutdown.after.shutdown.map fun _ => Answer.done).following c.shutdown.notices
    rw [shutdown_shutdown]
    unfold Effect.following
    dsimp only [Effect.map]
    rw [List.append_nil]
  | adopt socket =>
    change (c.adopt socket).map (fun _ => Answer.result (.ok ())) =
      ((c.shutdown.after.adopt socket).map fun _ => Answer.result (.ok ())).following
        c.shutdown.notices
    unfold adopt
    rw [shutdown_shutdown]
    rfl
  | refuse f =>
    change (c.refuse f).map Answer.result =
      ((c.shutdown.after.refuse f).map Answer.result).following c.shutdown.notices
    unfold refuse
    rw [shutdown_shutdown]
    unfold Effect.following
    dsimp only [Effect.map]
    rw [List.append_nil]
  | startConnect machine bindAddress host port =>
    change (c.startConnect machine bindAddress host port).map _ =
      ((c.shutdown.after.startConnect machine bindAddress host port).map _).following _
    unfold startConnect
    rw [shutdown_shutdown]
    dsimp only
    split
    · unfold Effect.following
      dsimp only [Effect.map]
      rw [List.append_nil]
    · rfl
  | _ => cases hop

theorem history_of_renews (c : Connection σ) {op : Operation σ} (hop : op.renews = true)
    (ops : List (Operation σ)) : c.history (op :: ops) =
      (c.shutdown.after.history (op :: ops)).following c.shutdown.notices := by
  unfold history
  rw [c.perform_of_renews hop]
  exact (Effect.following_following ..).symm

/-- Nothing of one connection reaches the next. A shutdown leaves a new connection with the last
listeners, a second one changes nothing, and a connect that fails leaves its failure besides. So two
lives with the same last listeners go on alike from the next shutdown or new connection: the same
answers, the same bytes sent and, once the old connection is torn down, the same notices. -/
theorem renewed_history (framing : Framing) (server : Option Socks.Server)
    (ops ops' : List (Operation (Recorded σ)))
    (hwatcher : (Operation.watchers ops').getLast? = (Operation.watchers ops).getLast?)
    (hprompter : (Operation.prompters ops').getLast? = (Operation.prompters ops).getLast?) :
    let c : Connection (Recorded σ) := (create framing server).after ops
    let c' : Connection (Recorded σ) := (create framing server).after ops'
    let fresh := createWith framing server (Operation.watchers ops).getLast?
      (Operation.prompters ops).getLast?
    c.shutdown.after = fresh ∧
    c.shutdown.after.shutdown = ⟨(), c.shutdown.after, []⟩ ∧
    (∀ machine bindAddress host port f,
      (c.startConnect machine bindAddress host port).answer = .error f →
      (c.startConnect machine bindAddress host port).after = { fresh with failure := some f }) ∧
    ∀ op more, op.renews = true → ∃ e : Effect (Recorded σ) (List Answer),
      c.history (op :: more) = e.following c.shutdown.notices ∧
      c'.history (op :: more) = e.following c'.shutdown.notices ∧
      (c.history (op :: more)).sent =
        (closedSockets c.shutdown.notices).map (·.accepted) ++ e.sent ∧
      (c'.history (op :: more)).sent =
        (closedSockets c'.shutdown.notices).map (·.accepted) ++ e.sent := by
  intro c c' fresh
  have hfresh : c.shutdown.after = fresh := shutdown_after framing server ops
  have hfresh' : c'.shutdown.after = fresh := by
    rw [shutdown_after framing server ops', hwatcher, hprompter]
  refine ⟨hfresh, c.shutdown_shutdown, fun machine bindAddress host port f hanswer => ?_,
    fun op more hop => ⟨fresh.history (op :: more), ?_⟩⟩
  · rw [startConnect_of_error hanswer, hfresh]
  · have hhistory := c.history_of_renews hop more
    have hhistory' := c'.history_of_renews hop more
    rw [hfresh] at hhistory
    rw [hfresh'] at hhistory'
    refine ⟨hhistory, hhistory', ?_, ?_⟩
    · rw [hhistory, Effect.sent_following]
    · rw [hhistory', Effect.sent_following]

theorem renewed_history_of_failed :
    let ops : List (Operation (Recorded Script)) := [.setWatcher 1,
      .adopt { stream := { reads := [.data [120], .endOfStream] } }, .queue [97],
      .service .reading]
    let c : Connection (Recorded Script) := (create ⟨10, none⟩ none).after ops
    let c' : Connection (Recorded Script) := (create ⟨10, none⟩ none).after [.setWatcher 1]
    let more : List (Operation (Recorded Script)) := [.queue [98], .service .writing]
    let op : Operation (Recorded Script) := .adopt { stream := { writes := [.accept 2] } }
    c.failure = some (.link .closedByPeer) ∧ c.inbound.bytes = [120] ∧ c.outbound.bytes = [97, 10] ∧
    ∃ e : Effect (Recorded Script) (List Answer),
      c.history (op :: more) = e.following c.shutdown.notices ∧
      c'.history (op :: more) = e.following c'.shutdown.notices ∧
      e.sent = [[98, 10]] := by
  intro ops c c' more op
  have hstate : c.failure = some (.link .closedByPeer) ∧ c.inbound.bytes = [120] ∧
      c.outbound.bytes = [97, 10] := by decide +kernel
  have hsent : (c'.history (op :: more)).sent = [[98, 10]] := by decide +kernel
  have hnone : closedSockets c'.shutdown.notices = [] := by decide +kernel
  obtain ⟨-, -, -, hrenewed⟩ := renewed_history (σ := Script) ⟨10, none⟩ none ops
    [.setWatcher 1] rfl rfl
  obtain ⟨e, he, he', -, hsent'⟩ := hrenewed op more rfl
  refine ⟨hstate.1, hstate.2.1, hstate.2.2, e, he, he', ?_⟩
  have hsame := hsent'.symm.trans hsent
  rwa [hnone] at hsame

end Connection

end LineTunnel
