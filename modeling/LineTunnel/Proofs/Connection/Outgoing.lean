import LineTunnel.Proofs.Connection.Change
import LineTunnel.Proofs.Connection.Start
import LineTunnel.Transport.Script

/-! What the socket of a connection has accepted: requests to the proxy first, messages behind
them, each in the order in which they were queued. No message goes out before the tunnel stands,
and none behind one that was dropped. -/

namespace LineTunnel

theorem Framing.stream_prefix (f : Framing) {xs ys : List Bytes} (h : xs <+: ys) :
    f.stream xs <+: f.stream ys := by
  obtain ⟨zs, rfl⟩ := h
  rw [f.stream_append]
  exact List.prefix_append ..

namespace Phase

variable {canPrompt : Bool} {result : Except Failure Unit} {p p' : Phase} {bs : Bytes}

theorem Leads.negotiation?_eq_none (h : Leads canPrompt result p bs p')
    (hp : p.negotiation? = none) : p'.negotiation? = none := by
  cases h with
  | same hdirect => exact hp
  | opened =>
    cases hp
    rfl
  | reopened hstage => cases hp
  | negotiating hversion hheard => cases hp
  | connected hgranted => cases hp

end Phase

namespace Run

variable {σ : Type}

/-- The socket has accepted these bytes of the requests and then these of the messages. -/
structure Sent (proxied : Bool) (f : Framing) (r : Run σ) (requests messages : Bytes) :
    Prop where
  tied : r.Tied
  framing : r.connection.framing = f
  accepted : r.socket.accepted = requests ++ messages
  handshake : requests ++ r.connection.handshake.bytes = r.log.requests
  outbound : messages ++ r.connection.outbound.bytes = f.stream r.log.accepted
  kept : messages <+: f.stream r.log.acceptedBeforeDrop
  overflowed : r.connection.overflowed = r.log.hasDrop
  unopened : messages = [] ∨ r.connection.phase = .connected
  direct : proxied = false → requests = [] ∧ r.connection.phase.negotiation? = none

theorem Fresh.sent {proxied : Bool} {r : Run σ} (h : r.Fresh)
    (hdirect : proxied = false → r.connection.phase.negotiation? = none) :
    Sent proxied r.connection.framing r [] [] where
  tied := h.tied
  framing := rfl
  accepted := h.accepted
  handshake := h.handshake
  outbound := by
    rw [h.outbound, h.messages]
    rfl
  kept := List.nil_prefix
  overflowed := h.overflowed.trans h.hasDrop.symm
  unopened := .inl rfl
  direct hproxied := ⟨rfl, hdirect hproxied⟩

variable {proxied : Bool} {f : Framing} {r r' : Run σ} {m : Move σ} {events : Log}
  {taken requests messages replies sentRequests sentMessages : Bytes}

theorem Sent.accepted_change (h : Sent proxied f r sentRequests sentMessages)
    (hc : Change m r r' events taken requests messages replies) :
    r'.socket.accepted = (sentRequests ++ requests) ++ (sentMessages ++ messages) := by
  rw [hc.carried.accepted, h.accepted]
  rcases hc.requests with rfl | ⟨n, hn⟩
  · rw [List.append_nil, List.nil_append, List.append_assoc]
  · -- a request goes out only while the negotiation lasts, and no message has gone out by then
    rcases h.unopened with rfl | hconnected
    · rw [List.append_nil, List.nil_append, List.append_assoc]
    · rw [hn] at hconnected
      cases hconnected

theorem Sent.kept_change (h : Sent proxied f r sentRequests sentMessages)
    (hc : Change m r r' events taken requests messages replies) :
    sentMessages ++ messages <+: f.stream r'.log.acceptedBeforeDrop := by
  rw [hc.log]
  have hgrows := f.stream_prefix (r.log.acceptedBeforeDrop_prefix_append events)
  refine List.IsPrefix.trans ?_ hgrows
  rcases hc.messages with rfl | ⟨-, hoverflowed, -⟩
  · rw [List.append_nil]
    exact h.kept
  · -- nothing is sent after a drop, so all that was accepted so far came before the first
    have hdrop : r.log.hasDrop = false := h.overflowed.symm.trans hoverflowed
    rw [Log.acceptedBeforeDrop_of_hasDrop_eq_false hdrop, ← h.outbound]
    exact (List.prefix_append_right_inj _).2 hc.sent

theorem Sent.change (h : Sent proxied f r sentRequests sentMessages)
    (hc : Change m r r' events taken requests messages replies) :
    Sent proxied f r' (sentRequests ++ requests) (sentMessages ++ messages) where
  tied := hc.tied
  framing := hc.framing.trans h.framing
  accepted := h.accepted_change hc
  handshake := by
    rw [List.append_assoc, ← hc.handshake, ← List.append_assoc, h.handshake, hc.log,
      Log.requests_append]
  outbound := by
    have hout := hc.outbound
    rw [h.framing] at hout
    rw [List.append_assoc, ← hout, ← List.append_assoc, h.outbound, hc.log,
      Log.accepted_append, f.stream_append]
  kept := h.kept_change hc
  overflowed := by rw [hc.overflowed, h.overflowed, hc.log, Log.hasDrop_append]
  unopened := by
    obtain ⟨result, -, hleads⟩ := hc.leads
    rcases hc.messages with rfl | ⟨hconnected, -⟩
    · rw [List.append_nil]
      exact h.unopened.imp id fun hconnected => (hleads.connected_of hconnected).2
    · exact .inr (hleads.connected_of hconnected).2
  direct hproxied := by
    obtain ⟨hnone, hdirect⟩ := h.direct hproxied
    obtain ⟨result, -, hleads⟩ := hc.leads
    refine ⟨?_, hleads.negotiation?_eq_none hdirect⟩
    rcases hc.requests with rfl | ⟨n, hn⟩
    · rw [hnone, List.append_nil]
    · rw [hn] at hdirect
      cases hdirect

variable [Transport σ]

theorem Sent.run (h : Sent proxied f r sentRequests sentMessages) (ms : List (Move σ)) :
    ∃ requests messages, Sent proxied f (r.run ms) requests messages := by
  refine run_induction (P := fun r => ∃ requests messages, Sent proxied f r requests messages)
    ?_ ?_ ⟨_, _, h⟩
  · rintro r ⟨requests, messages, h⟩
    exact h.tied
  · rintro r r' m events taken requests messages replies - ⟨sentRequests, sentMessages, h⟩ hc
    exact ⟨_, _, h.change hc⟩

/-- Whatever is done to a connection, its socket has accepted a beginning of the requests to the
proxy and behind it a beginning of the messages that came before the first drop, the latter only
if the connection has become connected. -/
theorem accepted_of_begun (hr : Begun proxied r) (ms : List (Move σ)) :
    ∃ requests messages, (r.run ms).socket.accepted = requests ++ messages ∧
      requests <+: (r.run ms).log.requests ∧ (proxied = false → requests = []) ∧
      messages <+: r.connection.framing.stream (r.run ms).log.acceptedBeforeDrop ∧
      ((r.run ms).connection.phase ≠ .connected → messages = []) := by
  have hstart := hr.fresh.sent fun hproxied => (hr.direct hproxied).1
  obtain ⟨requests, messages, h⟩ := hstart.run ms
  refine ⟨requests, messages, h.accepted, ?_, fun hproxied => (h.direct hproxied).1, h.kept, ?_⟩
  · rw [← h.handshake]
    exact List.prefix_append ..
  · intro hphase
    exact h.unopened.resolve_right hphase

def scripted (script : Script) : Machine Script where
  lookup _ := .ok [⟨127, 0, 0, 1⟩]
  user := { uid := 0, login := none }
  bind _ := .ok ()
  dial _ _ _ := .ok (.connected script)

def throughProxy (script : Script) : Run Script where
  connection := {
    framing := ⟨10, some 13⟩
    server := some { name := "p", port := 1080, version := .v5 }
    socket := some { stream := script }
    phase := .negotiating { stage := .v5 .methods, host := "host", port := 80 }
    inbound := .forReading
    outbound := .forWriting
    handshake := ⟨[5, 1, 0], List.replicate 253 0, 65536⟩
    failure := none
    overflowed := false
    watcher := none
    prompter := none }
  socket := { stream := script }
  log := [.requested [5, 1, 0]]

set_option maxRecDepth 4000 in
theorem dial_scripted (script : Script) : dial (scripted script) none "host" 80
    (.create ⟨10, some 13⟩ (some { name := "p", port := 1080, version := .v5 })) =
      some (throughProxy script) := by with_unfolding_all rfl

theorem accepted_of_begun_in_pieces :
    let r := throughProxy {
      reads := [.data [5, 0], .fail .blocked, .data [5, 0, 0, 1, 1, 2, 3, 4, 5, 6]]
      writes := [.accept 2, .accept 5, .accept 100, .accept 2] }
    let both : Readiness := { readable := true, writable := true }
    let ms : List (Move Script) := [.queue [97, 98], .service both, .service both, .service both]
    Begun true r ∧
      (r.run ms).socket.accepted = [5, 1, 0, 5, 1, 0, 3, 4, 104, 111, 115, 116, 0, 80, 97, 98] ∧
      ∃ requests messages, (r.run ms).socket.accepted = requests ++ messages ∧
        requests <+: (r.run ms).log.requests ∧ (true = false → requests = []) ∧
        messages <+: r.connection.framing.stream (r.run ms).log.acceptedBeforeDrop ∧
        ((r.run ms).connection.phase ≠ .connected → messages = []) := by
  intro r both ms
  have hr : Begun true r := .dialed (dial_scripted _)
  exact ⟨hr, by decide +kernel, accepted_of_begun hr ms⟩

end Run

end LineTunnel
