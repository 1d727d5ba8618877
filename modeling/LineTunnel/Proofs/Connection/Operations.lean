import LineTunnel.Connection.Messages
import LineTunnel.Proofs.Framing.Segments
import LineTunnel.Proofs.Socks.Conversation

/-! What each operation changes on a connection, field by field, and that a socket is only given up
together with a notice that shows it in its last state. -/

namespace LineTunnel

variable {σ α : Type}

def Notice.closed? : Notice σ → Option σ
  | closed s => some s
  | _ => none

def closedSockets (told : List (Notice σ)) : List σ := told.filterMap Notice.closed?

theorem closedSockets_nil : closedSockets ([] : List (Notice σ)) = [] := rfl

theorem closedSockets_append (told told' : List (Notice σ)) :
    closedSockets (told ++ told') = closedSockets told ++ closedSockets told' :=
  List.filterMap_append ..

/-- The socket after an operation, or its last state if the operation closed it. -/
def Effect.lastSocket (e : Effect σ α) : Option σ :=
  e.after.socket.or (closedSockets e.notices).getLast?

theorem Effect.lastSocket_of_quiet {e : Effect σ α} (h : closedSockets e.notices = []) :
    e.lastSocket = e.after.socket := by
  unfold lastSocket
  rw [h, List.getLast?_nil, Option.or_none]

namespace Phase

theorem withNegotiation_self {p : Phase} {n : Socks.Negotiation} (h : p.negotiation? = some n) :
    p.withNegotiation n = p := by
  cases p with
  | unconnected opening =>
    cases h
    rfl
  | negotiating n' =>
    cases h
    rfl
  | connected => cases h

theorem withNegotiation_eq_connected {p : Phase} {n : Socks.Negotiation} :
    p.withNegotiation n = connected ↔ p = connected := by
  cases p with
  | unconnected opening => cases opening <;> exact ⟨nofun, nofun⟩
  | negotiating n' => exact ⟨nofun, nofun⟩
  | connected => exact Iff.rfl

end Phase

namespace Connection

theorem isActive_of_socket {c : Connection σ} {s : σ} (h : c.socket = some s) :
    c.isActive = true := by
  rw [isActive, h]
  rfl

theorem report_eq (c : Connection σ) (urgent : Bool) :
    ∃ watcher told, closedSockets told = [] ∧ c.report urgent = ({ c with watcher }, told) := by
  unfold report
  split
  · exact ⟨c.watcher, [], rfl, rfl⟩
  · split
    · exact ⟨c.watcher, [], rfl, rfl⟩
    · exact ⟨_, _, rfl, rfl⟩

theorem stopWatching_eq (c : Connection σ) :
    ∃ watcher told, closedSockets told = [] ∧ c.stopWatching = ({ c with watcher }, told) := by
  unfold stopWatching
  split
  · exact ⟨c.watcher, [], rfl, rfl⟩
  · refine ⟨_, _, ?_, rfl⟩
    split <;> rfl

theorem setWatcher_eq (listener : Nat) (c : Connection σ) :
    ∃ watcher told, closedSockets told = [] ∧
      c.setWatcher listener = ⟨(), { c with watcher }, told⟩ := by
  obtain ⟨watcher, stopped, hstopped, hstop⟩ := c.stopWatching_eq
  obtain ⟨watcher', told, hquiet, hreport⟩ :=
    ({ c with watcher := some { listener } } : Connection σ).report_eq false
  refine ⟨watcher', stopped ++ told, ?_, ?_⟩
  · rw [closedSockets_append, hstopped, hquiet, List.append_nil]
  · unfold setWatcher
    rw [hstop]
    dsimp only
    rw [hreport]

theorem closeSocket_eq (c : Connection σ) :
    ∃ watcher told, closedSockets told = c.socket.toList ∧
      c.closeSocket = ({ c with watcher, socket := none }, told) := by
  obtain ⟨watcher, told, hquiet, hstop⟩ := c.stopWatching_eq
  refine ⟨watcher, told ++ c.socket.toList.map .closed, ?_, ?_⟩
  · rw [closedSockets_append, hquiet]
    cases c.socket <;> rfl
  · unfold closeSocket
    rw [hstop]

theorem queue_cases (message : Bytes) (c : Connection σ) :
    (∃ watcher outbound told, c.outbound.append (c.framing.encode message) = .ok outbound ∧
      closedSockets told = [] ∧ c.queue message = ⟨.ok (), { c with watcher, outbound }, told⟩) ∨
    ∃ f watcher told, closedSockets told = [] ∧
      c.queue message = ⟨.error f, { c with watcher, overflowed := true }, told⟩ := by
  unfold queue
  split
  · next outbound hout =>
    refine .inl ?_
    obtain ⟨watcher, told, hquiet, hreport⟩ := ({ c with outbound } : Connection σ).report_eq false
    dsimp only
    split
    · rw [hreport]
      exact ⟨watcher, outbound, told, hout, hquiet, rfl⟩
    · exact ⟨c.watcher, outbound, [], hout, rfl, rfl⟩
  · next f hout =>
    obtain ⟨watcher, told, hquiet, hreport⟩ :=
      ({ c with overflowed := true } : Connection σ).report_eq false
    rw [hreport]
    exact .inr ⟨f, watcher, told, hquiet, rfl⟩

theorem queue_of_full {message : Bytes} {c : Connection σ} (hwatcher : c.watcher = none)
    (hcapacity : c.outbound.capacity < c.outbound.length + (message.length + 1))
    (hceiling : c.outbound.ceiling < c.outbound.length + (message.length + 1)) :
    c.queue message = ⟨.error (.link .bufferFull), { c with overflowed := true }, []⟩ := by
  have hlength : (c.framing.encode message).length = message.length + 1 := by
    unfold Framing.encode
    rw [List.length_append, List.length_singleton]
  have hfull : c.outbound.append (c.framing.encode message) = .error (.link .bufferFull) :=
    ByteQueue.append_eq_error (by rwa [hlength]) (by rwa [hlength])
  unfold queue report
  rw [hfull]
  dsimp only
  rw [hwatcher]

theorem awaitingCredentials_eq_true {c : Connection σ} : c.awaitingCredentials = true ↔
    ∃ n, c.phase.negotiation? = some n ∧ n.awaiting = true := by
  unfold awaitingCredentials
  cases c.phase.negotiation? <;> simp

theorem submit_of_not_awaiting {c : Connection σ} (h : c.awaitingCredentials = false)
    (user password : String) :
    c.submit user password = ⟨.error (.socks .notAwaitingCredentials), c, []⟩ := by
  unfold submit
  cases hn : c.phase.negotiation? with
  | none => rfl
  | some n =>
    have hawaiting : n.awaiting = false := by
      unfold awaitingCredentials at h
      rwa [hn] at h
    dsimp only
    rw [Socks.Exchange.submit_of_not_awaiting (x := ⟨n, c.inbound, c.handshake⟩) user password
      hawaiting]
    dsimp only
    rw [Phase.withNegotiation_self hn]
    rfl

theorem submit_of_refused {c : Connection σ} {n : Socks.Negotiation} {user password : String}
    {f : Failure} (hn : c.phase.negotiation? = some n)
    (h : (Socks.Exchange.mk n c.inbound c.handshake).submit user password =
      (.error f, ⟨n, c.inbound, c.handshake⟩)) (hf : f ≠ .socks .notAwaitingCredentials) :
    ∃ watcher told, closedSockets told = [] ∧
      c.submit user password = ⟨.error f, { c with watcher, failure := some f }, told⟩ := by
  obtain ⟨watcher, told, hquiet, hreport⟩ :=
    ({ c with failure := some f } : Connection σ).report_eq true
  refine ⟨watcher, told, hquiet, ?_⟩
  unfold submit
  rw [hn]
  dsimp only
  rw [h]
  dsimp only
  rw [Phase.withNegotiation_self hn, if_neg hf, hreport]

theorem submit_cases (user password : String) (c : Connection σ) :
    (∃ n frame watcher handshake told, c.phase.negotiation? = some n ∧ n.awaiting = true ∧
      Socks.Frame.credentials user password = .ok frame ∧
      c.handshake.append frame = .ok handshake ∧ closedSockets told = [] ∧
      c.submit user password = ⟨.ok (), { c with
        watcher
        handshake
        phase := c.phase.withNegotiation { n with awaiting := false } }, told⟩) ∨
    ∃ f failure watcher told, closedSockets told = [] ∧
      (failure = c.failure ∧ c.awaitingCredentials = false ∨
        failure = some f ∧ ∃ n, c.phase.negotiation? = some n ∧ n.awaiting = true) ∧
      c.submit user password = ⟨.error f, { c with watcher, failure }, told⟩ := by
  cases hc : c.awaitingCredentials with
  | false =>
    exact .inr ⟨_, c.failure, c.watcher, [], rfl, .inl ⟨rfl, rfl⟩,
      submit_of_not_awaiting hc user password⟩
  | true =>
    obtain ⟨n, hn, hawaiting⟩ := awaitingCredentials_eq_true.1 hc
    rcases Socks.Exchange.submit_of_awaiting (x := ⟨n, c.inbound, c.handshake⟩) user password
      hawaiting with ⟨f, hf, herror⟩ | ⟨frame, handshake, hframe, hout, hok⟩
    · obtain ⟨watcher, told, hquiet, hsubmit⟩ := submit_of_refused hn herror hf
      exact .inr ⟨f, some f, watcher, told, hquiet, .inr ⟨rfl, n, hn, hawaiting⟩, hsubmit⟩
    · obtain ⟨watcher, told, hquiet, hreport⟩ := ({ c with
        phase := c.phase.withNegotiation { n with awaiting := false }
        handshake } : Connection σ).report_eq false
      refine .inl ⟨n, frame, watcher, handshake, told, hn, hawaiting, hframe, hout, hquiet, ?_⟩
      unfold submit
      rw [hn]
      dsimp only
      rw [hok]
      dsimp only
      rw [hreport]

theorem next_cases (c : Connection σ) :
    c.next = (none, c) ∨
      c.isConnected = true ∧ ∃ body rest, c.framing.terminator ∉ body ∧
        c.inbound.bytes = body ++ c.framing.terminator :: rest ∧
        c.next = (some (c.framing.trim body),
          { c with inbound := c.inbound.discard (body.length + 1) }) := by
  unfold next
  split
  · next hconnected =>
    split
    · exact .inl rfl
    · next message n hfirst =>
      obtain ⟨body, rest, hbody, hbytes, rfl, rfl⟩ := Framing.first?_eq_some hfirst
      exact .inr ⟨hconnected, body, rest, hbody, hbytes, rfl⟩
  · exact .inl rfl

theorem take_cases (n : Nat) (c : Connection σ) :
    c.take n = (none, c) ∨
      n ≤ c.inbound.length ∧
        c.take n = (some (c.inbound.bytes.take n), { c with inbound := c.inbound.discard n }) := by
  unfold take
  split
  · exact .inl rfl
  · next bs inbound htake =>
    obtain ⟨hle, rfl, rfl⟩ := ByteQueue.consume_eq_some htake
    exact .inr ⟨hle, rfl⟩

end Connection

end LineTunnel
