import LineTunnel.Proofs.Connection.History
import LineTunnel.Transport.Script

/-! Who watches a connection knows at all times what to watch, from the notices alone: the one who
was registered last was told it last, and everyone before was told to watch nothing. -/

namespace LineTunnel

variable {σ : Type}

def Notice.watched? (listener : Nat) : Notice σ → Option Readiness
  | watch listener' ready _ => if listener' = listener then some ready else none
  | _ => none

def lastTold (listener : Nat) (told : List (Notice σ)) : Option Readiness :=
  (told.filterMap (Notice.watched? listener)).getLast?

theorem lastTold_append (listener : Nat) (told told' : List (Notice σ)) :
    lastTold listener (told ++ told') = (lastTold listener told').or (lastTold listener told) := by
  unfold lastTold
  rw [List.filterMap_append, List.getLast?_append]

theorem lastTold_append_watch (listener listener' : Nat) (told : List (Notice σ))
    (ready : Readiness) (urgent : Bool) :
    lastTold listener (told ++ [.watch listener' ready urgent]) =
      if listener' = listener then some ready else lastTold listener told := by
  rw [lastTold_append]
  unfold lastTold
  by_cases h : listener' = listener <;> simp [Notice.watched?, h]

theorem OnlyPrompts.lastTold_eq_none {told : List (Notice σ)} (h : OnlyPrompts told)
    (listener : Nat) : lastTold listener told = none := by
  have hsilent : told.filterMap (Notice.watched? listener) = [] := by
    refine List.filterMap_eq_nil_iff.2 fun notice hmem => ?_
    obtain ⟨listener', server, rfl⟩ := h notice hmem
    rfl
  unfold lastTold
  rw [hsilent]
  rfl

theorem Readiness.eq_none_of_isEmpty {ready : Readiness} (h : ready.isEmpty = true) :
    ready = .none := by
  obtain ⟨readable, writable, exceptional⟩ := ready
  cases readable <;> cases writable <;> cases exceptional <;> first | rfl | cases h

theorem Watcher.getD_reported_of_not_any {w : Watcher}
    (h : ¬w.reported.any (!·.isEmpty) = true) : w.reported.getD .none = .none := by
  cases hreported : w.reported with
  | none => rfl
  | some ready =>
    rw [hreported] at h
    exact Readiness.eq_none_of_isEmpty (by simpa using h)

namespace Operation

def watcher? : Operation σ → Option Nat
  | setWatcher listener => some listener
  | _ => none

def watchers (ops : List (Operation σ)) : List Nat := ops.filterMap watcher?

theorem watchers_cons (op : Operation σ) (ops : List (Operation σ)) :
    watchers (op :: ops) = op.watcher?.toList ++ watchers ops := by
  unfold watchers
  rw [List.filterMap_cons]
  cases op.watcher? <;> rfl

end Operation

namespace Connection

inductive AwaitsWriting (c : Connection σ) : Prop
  | failed {f : Failure} : c.failure = some f → AwaitsWriting c
  | connecting {opening : Option Socks.Negotiation} : c.phase = .unconnected opening →
      AwaitsWriting c
  | asking {n : Socks.Negotiation} : c.phase = .negotiating n → c.handshake.bytes ≠ [] →
      AwaitsWriting c
  | sending : c.phase = .connected → c.outbound.bytes ≠ [] → AwaitsWriting c
  | overflowed : c.phase = .connected → c.overflowed = true → AwaitsWriting c

theorem writable_watch_iff (c : Connection σ) :
    c.watch.writable = true ↔ c.isActive = true ∧ c.AwaitsWriting := by
  unfold watch
  cases hactive : c.isActive with
  | false => exact ⟨nofun, fun h => nomatch h.1⟩
  | true =>
    rw [if_pos rfl, Bool.or_eq_true, Option.isSome_iff_exists]
    constructor
    · rintro (⟨f, hf⟩ | hphase)
      · exact ⟨rfl, .failed hf⟩
      · refine ⟨rfl, ?_⟩
        split at hphase
        · next hphase' => exact .connecting hphase'
        · next hphase' => exact .asking hphase' (by simpa [ByteQueue.isEmpty] using hphase)
        · next hphase' =>
          rcases Bool.or_eq_true_iff.1 hphase with hout | hover
          · exact .sending hphase' (by simpa [ByteQueue.isEmpty] using hout)
          · exact .overflowed hphase' hover
    · rintro ⟨-, hawaits⟩
      cases hawaits with
      | failed hf => exact .inl ⟨_, hf⟩
      | connecting hphase => simp [hphase]
      | asking hphase hbytes => simp [hphase, ByteQueue.isEmpty, hbytes]
      | sending hphase hbytes => simp [hphase, ByteQueue.isEmpty, hbytes]
      | overflowed hphase hover => simp [hphase, hover]

def standing (listener : Nat) (c : Connection σ) : Readiness :=
  match c.watcher with
  | none => .none
  | some w => if w.listener = listener then w.reported.getD .none else .none

/-- The connection is right about what each of its listeners was last told. -/
structure Heard (listeners : List Nat) (told : List (Notice σ)) (c : Connection σ) : Prop where
  current : c.watcher.map (·.listener) = listeners.getLast?
  last : ∀ listener ∈ listeners, lastTold listener told = some (c.standing listener)

structure Informed (listeners : List Nat) (told : List (Notice σ)) (c : Connection σ) : Prop
    extends Heard listeners told c where
  reported : ∀ w, c.watcher = some w → w.reported.getD .none = c.watch

variable {listeners : List Nat} {told told' : List (Notice σ)} {c c' : Connection σ}

theorem standing_eq_none_of_reported {listener : Nat}
    (h : ∀ w, c.watcher = some w → w.reported = none) : c.standing listener = .none := by
  unfold standing
  split
  · rfl
  · next w hw =>
    rw [h w hw]
    exact ite_self _

theorem watch_stopWatching (c : Connection σ) : c.stopWatching.1.watch = c.watch := by
  unfold stopWatching
  split <;> rfl

theorem setWatcher_told (listener : Nat) (c : Connection σ) :
    c.setWatcher listener = ⟨(),
      { c.stopWatching.1 with watcher := some ⟨listener, some c.watch⟩ },
      c.stopWatching.2 ++ [.watch listener c.watch false]⟩ := by
  have hwatch : ({ c.stopWatching.1 with watcher := some { listener } } : Connection σ).watch =
    c.watch := c.watch_stopWatching
  unfold setWatcher report
  dsimp only
  rw [hwatch]
  rfl

theorem informed_create (framing : Framing) (server : Option Socks.Server) :
    Informed [] [] (create framing server : Connection σ) where
  current := rfl
  last := nofun
  reported := nofun

namespace Heard

theorem of_watcher_eq (h : Heard listeners told c) (hwatcher : c'.watcher = c.watcher) :
    Heard listeners told c' where
  current := by rw [hwatcher, h.current]
  last listener hmem := by
    rw [h.last listener hmem]
    unfold standing
    rw [hwatcher]

theorem append (h : Heard listeners told c)
    (hsilent : ∀ listener, lastTold listener told' = none) : Heard listeners (told ++ told') c where
  current := h.current
  last listener hmem := by
    rw [lastTold_append, hsilent, Option.none_or, h.last listener hmem]

theorem report (h : Heard listeners told c') (hwatcher : c.watcher = c'.watcher) (urgent : Bool) :
    Informed listeners (told ++ (c.report urgent).2) (c.report urgent).1 := by
  replace h := h.of_watcher_eq hwatcher
  unfold Connection.report
  split
  · next hnone =>
    rw [List.append_nil]
    exact { h with reported := fun w hw => nomatch hnone.symm.trans hw }
  · next w hw =>
    have hcurrent := h.current
    rw [hw] at hcurrent
    split
    · next hsame =>
      rw [Bool.and_eq_true, beq_iff_eq] at hsame
      rw [List.append_nil]
      refine { h with reported := fun w' hw' => ?_ }
      cases hw.symm.trans hw'
      rw [hsame.2]
      rfl
    · refine ⟨⟨hcurrent, fun listener hmem => ?_⟩, fun w' hw' => ?_⟩
      · rw [lastTold_append_watch, h.last listener hmem]
        unfold standing
        rw [hw]
        dsimp only
        split <;> rfl
      · cases hw'
        rfl

theorem stopWatching (h : Heard listeners told c) :
    Heard listeners (told ++ c.stopWatching.2) c.stopWatching.1 ∧
      ∀ w, c.stopWatching.1.watcher = some w → w.reported = none := by
  unfold Connection.stopWatching
  split
  · next hnone =>
    rw [List.append_nil]
    exact ⟨h, fun w hw => nomatch hnone.symm.trans hw⟩
  · next w hw =>
    have hcurrent := h.current
    rw [hw] at hcurrent
    refine ⟨⟨hcurrent, fun listener hmem => ?_⟩, fun w' hw' => ?_⟩
    · have hlast := h.last listener hmem
      unfold standing at hlast ⊢
      rw [hw] at hlast
      dsimp only [Option.getD_none] at hlast ⊢
      rw [ite_self]
      split
      · rw [lastTold_append_watch, hlast]
        split <;> rfl
      · next hnothing =>
        rw [List.append_nil, hlast, Watcher.getD_reported_of_not_any hnothing, ite_self]
    · cases hw'
      rfl

theorem closeSocket (h : Heard listeners told c') (hwatcher : c.watcher = c'.watcher) :
    Informed listeners (told ++ c.closeSocket.2) c.closeSocket.1 := by
  obtain ⟨hstopped, hnone⟩ := (h.of_watcher_eq hwatcher).stopWatching
  have hsilent : ∀ listener,
      lastTold listener (c.stopWatching.1.socket.toList.map .closed) = none := by
    intro listener
    cases c.stopWatching.1.socket <;> rfl
  have hclosed := hstopped.append hsilent
  rw [List.append_assoc] at hclosed
  refine ⟨hclosed.of_watcher_eq rfl, fun w hw => ?_⟩
  rw [hnone w hw, watch_of_closed rfl]
  rfl

theorem setWatcher (h : Heard listeners told c) (listener : Nat) :
    Informed (listeners ++ [listener]) (told ++ (c.setWatcher listener).notices)
      (c.setWatcher listener).after := by
  obtain ⟨hstopped, hnone⟩ := h.stopWatching
  rw [setWatcher_told]
  refine ⟨⟨List.getLast?_concat.symm, fun m hmem => ?_⟩, fun w hw => ?_⟩
  · rw [← List.append_assoc, lastTold_append_watch]
    unfold standing
    dsimp only
    split
    · rfl
    · next hne =>
      rcases List.mem_append.1 hmem with hbefore | hnew
      · rw [hstopped.last m hbefore, standing_eq_none_of_reported hnone]
      · exact absurd (List.mem_singleton.1 hnew).symm hne
  · cases hw
    exact c.watch_stopWatching.symm

end Heard

theorem watch_of_outbound {outbound : ByteQueue} (h : c.outbound.isEmpty = false)
    (houtbound : outbound.isEmpty = false) :
    ({ c with outbound } : Connection σ).watch = c.watch := by
  unfold watch isActive
  dsimp only
  rw [h, houtbound]

namespace Informed

theorem of_watch_eq (h : Informed listeners told c) (hwatcher : c'.watcher = c.watcher)
    (hwatch : c'.watch = c.watch) : Informed listeners told c' where
  toHeard := h.toHeard.of_watcher_eq hwatcher
  reported w hw := by
    rw [hwatch]
    exact h.reported w (hwatcher ▸ hw)

theorem silent (h : Informed listeners told c) (hwatcher : c'.watcher = c.watcher)
    (hwatch : c'.watch = c.watch) : Informed listeners (told ++ []) c' := by
  rw [List.append_nil]
  exact h.of_watch_eq hwatcher hwatch

theorem queue (h : Informed listeners told c) (message : Bytes) :
    Informed listeners (told ++ (c.queue message).notices) (c.queue message).after := by
  unfold Connection.queue
  split
  · next outbound hout =>
    dsimp only
    split
    · exact h.toHeard.report (by rfl) false
    · next hbefore =>
      have hnonempty : c.outbound.isEmpty = false := by simpa using hbefore
      refine h.silent rfl (watch_of_outbound hnonempty ?_)
      unfold ByteQueue.isEmpty at hnonempty ⊢
      rw [ByteQueue.bytes_append hout]
      simp [List.isEmpty_eq_false_iff.1 hnonempty]
  · exact h.toHeard.report (by rfl) false

theorem submit (h : Informed listeners told c) (user password : String) :
    Informed listeners (told ++ (c.submit user password).notices)
      (c.submit user password).after := by
  unfold Connection.submit
  cases hn : c.phase.negotiation? with
  | none => exact h.silent rfl rfl
  | some n =>
    dsimp only
    cases hawaiting : n.awaiting with
    | false =>
      rw [Socks.Exchange.submit_of_not_awaiting (x := ⟨n, c.inbound, c.handshake⟩) user password
        hawaiting]
      dsimp only
      rw [Phase.withNegotiation_self hn]
      exact h.silent rfl rfl
    | true =>
      rcases Socks.Exchange.submit_of_awaiting (x := ⟨n, c.inbound, c.handshake⟩) user password
        hawaiting with ⟨f, hf, herror⟩ | ⟨frame, handshake, -, -, hok⟩
      · rw [herror]
        dsimp only
        rw [if_neg hf]
        exact h.toHeard.report (by rfl) true
      · rw [hok]
        exact h.toHeard.report (by rfl) false

theorem shutdown (h : Informed listeners told c) :
    Informed listeners (told ++ c.shutdown.notices) c.shutdown.after := by
  refine (h.toHeard.closeSocket rfl).of_watch_eq rfl ?_
  rw [watch_of_closed rfl, watch_of_closed rfl]

theorem adopt (h : Informed listeners told c) (socket : σ) :
    Informed listeners (told ++ (c.adopt socket).notices) (c.adopt socket).after := by
  unfold Connection.adopt
  dsimp only
  rw [← List.append_assoc]
  exact h.shutdown.toHeard.report (by rfl) false

theorem startConnect (h : Informed listeners told c) (machine : Machine σ)
    (bindAddress : Option String) (host : String) (port : UInt16) :
    Informed listeners (told ++ (c.startConnect machine bindAddress host port).notices)
      (c.startConnect machine bindAddress host port).after := by
  unfold Connection.startConnect
  dsimp only
  split
  · next f hattempt =>
    refine h.shutdown.of_watch_eq rfl ?_
    rw [watch_of_closed rfl, watch_of_closed rfl]
  · next c' hattempt =>
    obtain ⟨⟨opening, handshake⟩, -, hrest⟩ := exists_of_bind_eq_ok hattempt
    obtain ⟨dialed, -, hok⟩ := exists_of_bind_eq_ok hrest
    cases hok
    dsimp only
    rw [← List.append_assoc]
    exact h.shutdown.toHeard.report (by rfl) false

variable [Transport σ]

theorem service (h : Informed listeners told c) (ready : Readiness) :
    Informed listeners (told ++ (c.service ready).notices) (c.service ready).after := by
  cases hs : c.socket with
  | none =>
    rw [service_closed hs]
    exact h.silent rfl rfl
  | some s =>
    obtain ⟨result, c', waiting, prompts, hwork, hprompts, hservice⟩ := service_eq_finish hs ready
    obtain ⟨socket, phase, inbound, outbound, handshake, -, rfl⟩ := hwork.eq hs
    have hworked := h.toHeard.append hprompts.lastTold_eq_none
    rw [hservice]
    unfold finish
    cases result with
    | ok u =>
      unfold settle
      dsimp only
      rw [← List.append_assoc]
      exact hworked.report (by rfl) false
    | error f =>
      unfold fail
      dsimp only
      rw [← List.append_assoc]
      exact hworked.closeSocket (by rfl)

theorem perform_of_quiet (h : Informed listeners told c) {op : Operation σ}
    (hop : op.watcher? = none) :
    Informed listeners (told ++ (c.perform op).notices) (c.perform op).after := by
  cases op with
  | queue message => exact h.queue message
  | submit user password => exact h.submit user password
  | service ready => exact h.service ready
  | next =>
    change Informed listeners (told ++ []) c.next.2
    rcases c.next_cases with hnext | ⟨-, body, rest, -, -, hnext⟩
    all_goals
      rw [hnext]
      exact h.silent rfl rfl
  | take n =>
    change Informed listeners (told ++ []) (c.take n).2
    rcases c.take_cases n with htake | ⟨-, htake⟩
    all_goals
      rw [htake]
      exact h.silent rfl rfl
  | setWatcher listener => cases hop
  | setPrompter listener => exact h.silent rfl rfl
  | shutdown => exact h.shutdown
  | adopt socket => exact h.adopt socket
  | refuse f => exact h.shutdown
  | startConnect machine bindAddress host port => exact h.startConnect machine bindAddress host port
  | turn f =>
    refine h.silent rfl ?_
    change watch { c with socket := c.socket.map f } = c.watch
    unfold watch isActive
    rw [Option.isSome_map]

theorem perform (h : Informed listeners told c) (op : Operation σ) :
    Informed (listeners ++ op.watcher?.toList) (told ++ (c.perform op).notices)
      (c.perform op).after := by
  by_cases hop : op.watcher? = none
  · rw [hop, Option.toList_none, List.append_nil]
    exact h.perform_of_quiet hop
  · cases op with
    | setWatcher listener => exact h.toHeard.setWatcher listener
    | _ => exact absurd rfl hop

theorem history (h : Informed listeners told c) (ops : List (Operation σ)) :
    Informed (listeners ++ Operation.watchers ops) (told ++ (c.history ops).notices)
      (c.history ops).after := by
  induction ops generalizing listeners told c with
  | nil =>
    change Informed (listeners ++ []) (told ++ []) c
    rw [List.append_nil]
    exact h.silent rfl rfl
  | cons op ops ih =>
    have hrest := ih (h.perform op)
    rw [List.append_assoc, List.append_assoc] at hrest
    rw [Operation.watchers_cons]
    exact hrest

end Informed

theorem Informed.lastTold_eq (h : Informed listeners told c) {listener : Nat}
    (hmem : listener ∈ listeners) : lastTold listener told =
      some (if listeners.getLast? = some listener then c.watch else .none) := by
  rw [h.last listener hmem, ← h.current]
  unfold standing
  cases hw : c.watcher with
  | none => rfl
  | some w =>
    dsimp only [Option.map_some]
    rw [h.reported w hw]
    split
    · next heq => rw [if_pos (congrArg some heq)]
    · next hne => rw [if_neg fun heq => hne (Option.some.inj heq)]

/-- Everyone who was registered to watch was told at once what there is to watch. Whoever was
registered last was told last what there is now, and whoever was replaced, to watch nothing. So the
one who listens learns when the socket has to be written to, and that it is closed. -/
theorem lastTold_history [Transport σ] (framing : Framing) (server : Option Socks.Server)
    (ops : List (Operation σ)) :
    let c : Connection σ := (create framing server).after ops
    let told := ((create framing server).history ops).notices
    (∀ listener ∈ Operation.watchers ops, lastTold listener told =
      some (if (Operation.watchers ops).getLast? = some listener then c.watch else .none)) ∧
    (∀ listener, ∃ stopped,
      (c.setWatcher listener).notices = stopped ++ [.watch listener c.watch false]) ∧
    ∀ listener, (Operation.watchers ops).getLast? = some listener →
      ∃ ready, lastTold listener told = some ready ∧
        (ready.writable = true ↔ c.isActive = true ∧ c.AwaitsWriting) ∧
        (c.isActive = false → ready = .none) := by
  intro c told
  have h : Informed (Operation.watchers ops) told c := by
    have hinformed := (informed_create framing server).history ops
    rwa [after_history] at hinformed
  refine ⟨fun listener hmem => h.lastTold_eq hmem,
    fun listener => ⟨_, congrArg Effect.notices (setWatcher_told listener c)⟩,
    fun listener hlast => ⟨c.watch, ?_, c.writable_watch_iff, watch_of_closed⟩⟩
  rw [h.lastTold_eq (List.mem_of_getLast? hlast), if_pos hlast]

example :
    let idle : Readiness := { readable := true, exceptional := true }
    let busy : Readiness := { idle with writable := true }
    let script : Script := {}
    ((create ⟨10, none⟩ none : Connection Script).history
      [.setWatcher 1, .adopt script, .queue [97], .setWatcher 2, .shutdown]).notices =
      [.watch 1 .none false, .watch 1 idle false, .watch 1 busy false, .watch 1 .none false,
        .watch 2 busy false, .watch 2 .none false, .closed script] := by
  decide +kernel

end Connection

end LineTunnel
