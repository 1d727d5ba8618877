import LineTunnel.Proofs.Connection.Outgoing
import LineTunnel.Proofs.Socks.Reaction

/-! When a tunnel stands, whether the proxy has got all that it was asked. A proxy may grant a
tunnel before the request for it has left: the grant counts, and what was not sent of the requests
by then stays behind. -/

namespace LineTunnel

namespace Socks

theorem Negotiation.tunnelRequest_ne_nil {n : Negotiation}
    (h : n.host.utf8ByteSize ≤ Frame.maxText) : n.tunnelRequest ≠ [] := by
  unfold tunnelRequest Frame.connectByName
  rw [if_neg (Nat.not_lt.2 h)]
  exact nofun

namespace Exchange

variable (canPrompt : Bool) {x : Exchange}

theorem host_le_of_step (hbefore : x.negotiation.stage.hasAsked = false)
    (hafter : (x.step canPrompt).2.negotiation.stage.hasAsked = true) :
    x.negotiation.host.utf8ByteSize ≤ Frame.maxText := by
  rw [step_eq_follow] at hafter
  cases hreact : x.negotiation.react canPrompt x.inbound.bytes with
  | request => exact (Negotiation.of_react_eq_request hreact).2
  | wait | refuse | grant =>
    rw [hreact] at hafter
    exact nomatch hbefore.symm.trans hafter
  | prompt =>
    rw [hreact] at hafter
    cases hafter

theorem host_le_of_advance (hbefore : x.negotiation.stage.hasAsked = false)
    (hafter : (x.advance canPrompt).2.negotiation.stage.hasAsked = true) :
    x.negotiation.host.utf8ByteSize ≤ Frame.maxText := by
  fun_induction advance canPrompt x with
  | case1 x x' hstep hmore ih =>
    obtain ⟨taken, hmoved⟩ := moved_step canPrompt x
    rw [hstep] at hmoved
    cases hasked : x'.negotiation.stage.hasAsked with
    | false => exact hmoved.host ▸ ih hasked hafter
    | true => exact host_le_of_step canPrompt hbefore (by rw [hstep]; exact hasked)
  | case2 x x' hstep hdone =>
    exact host_le_of_step canPrompt hbefore (by rw [hstep]; exact hafter)
  | case3 x hdone => exact host_le_of_step canPrompt hbefore hafter

end Exchange

end Socks

theorem Phase.eq_connected_of_ofProgress {p : Except Failure Socks.Progress} {n : Socks.Negotiation}
    (h : ofProgress p n = connected) : p = .ok .connected := by
  unfold ofProgress at h
  split at h
  · rfl
  · cases h

namespace Connection

variable {σ : Type} [Transport σ] {c : Connection σ} {n : Socks.Negotiation}

theorem handshake_absorb_eq_nil_iff (hbefore : c.phase = .negotiating n)
    (hafter : c.absorb.2.phase = .connected) :
    c.absorb.2.handshake.bytes = [] ↔ n.stage.hasAsked = true ∧ c.handshake.bytes = [] := by
  obtain ⟨socket, inbound, -, hfill⟩ := c.fill_eq
  have hfilled : c.fill.2.phase = .negotiating n := by
    rw [hfill]
    exact hbefore
  obtain ⟨p, x, told, -, hadvance, heq⟩ := advance_negotiating hfilled
  unfold absorb at hafter ⊢
  rw [heq] at hafter ⊢
  cases Phase.eq_connected_of_ofProgress hafter
  obtain ⟨taken, hmoved⟩ := Socks.Exchange.moved_advance c.fill.2.prompter.isSome
    ⟨n, c.fill.2.inbound, c.fill.2.handshake⟩
  have hhost := Socks.Exchange.host_le_of_advance c.fill.2.prompter.isSome
    (x := ⟨n, c.fill.2.inbound, c.fill.2.handshake⟩)
  rw [hadvance] at hmoved hhost
  have hasked := hmoved.ended rfl
  have hout : x.outbound.bytes = c.handshake.bytes ++ n.asked x.negotiation.stage := by
    rw [hmoved.outbound, hfill]
  dsimp only
  rw [hout, List.append_eq_nil_iff]
  unfold Socks.Negotiation.asked
  rw [hasked]
  cases hn : n.stage.hasAsked with
  | true => simp
  | false =>
    have hrequest := Socks.Negotiation.tunnelRequest_ne_nil (hhost hn hasked)
    simp [hrequest]

theorem handshake_eq_nil_iff {s : σ} {ready : Readiness} {result : Except Failure Unit}
    {c' : Connection σ} (hw : Work ready c s result c') (hbefore : c.phase = .negotiating n)
    (hafter : c'.phase = .connected) :
    c'.handshake.bytes = [] ↔
      n.stage.hasAsked = true ∧ (c.flushIf ready).2.handshake.bytes = [] := by
  obtain ⟨socket, outbound, handshake, -, hflush⟩ := c.flushIf_eq ready
  have hflushed : (c.flushIf ready).2.phase = .negotiating n := by
    rw [hflush]
    exact hbefore
  cases hw with
  | known | exceptional => exact nomatch hbefore.symm.trans hafter
  | waiting _ hphase | refused _ hphase | opened _ hphase =>
    exact nomatch hbefore.symm.trans hphase
  | unsent | sent => exact nomatch hflushed.symm.trans hafter
  | read => exact handshake_absorb_eq_nil_iff hflushed hafter

theorem handshake_service_eq_nil_iff {ready : Readiness} (hbefore : c.phase = .negotiating n)
    (hafter : (c.service ready).after.phase = .connected) :
    (c.service ready).after.handshake.bytes = [] ↔
      n.stage.hasAsked = true ∧ (c.flushIf ready).2.handshake.bytes = [] := by
  cases hs : c.socket with
  | none =>
    rw [service_closed hs] at hafter
    exact nomatch hbefore.symm.trans hafter
  | some s =>
    obtain ⟨result, c', waiting, told, hwork, hquiet, hservice⟩ := service_work hs ready
    obtain ⟨socket, failure, watcher, hfinish⟩ := c'.finish_eq result waiting hquiet
    rw [hservice, hfinish] at hafter ⊢
    have hdrained := handshake_eq_nil_iff hwork hbefore hafter
    exact hdrained

end Connection

namespace Run

variable {σ : Type} [Transport σ] {r : Run σ}

theorem requests_of_connected (hr : Begun true r) (ms : List (Move σ)) (ready : Readiness)
    {n : Socks.Negotiation} (hbefore : (r.run ms).connection.phase = .negotiating n) :
    ((r.run ms).step (.service ready)).socket.accepted ++
        ((r.run ms).step (.service ready)).connection.handshake.bytes =
      ((r.run ms).step (.service ready)).log.requests := by
  have hstart : Sent true r.connection.framing r [] [] := hr.fresh.sent nofun
  obtain ⟨sentRequests, sentMessages, hsent⟩ := hstart.run ms
  obtain ⟨events, taken, requests, messages, replies, hc⟩ :=
    change_step hsent.tied (.service ready)
  have hnone : sentMessages = [] :=
    hsent.unopened.resolve_right fun hconnected => nomatch hbefore.symm.trans hconnected
  have hnone' : messages = [] :=
    hc.messages.resolve_right fun hconnected => nomatch hbefore.symm.trans hconnected.1
  have hlater := hsent.change hc
  rw [hlater.accepted, hnone, hnone', List.append_nil, List.append_nil]
  exact hlater.handshake

/-- When a service call turns a negotiation into a tunnel, what was not sent of the requests waits
in the queue. Nothing waits there just if the request for the tunnel was queued before the call,
and what the call flushed before it read was all that was left. -/
theorem drained_iff (hr : Begun true r) (ms : List (Move σ)) (ready : Readiness)
    {n : Socks.Negotiation} (hbefore : (r.run ms).connection.phase = .negotiating n)
    (hafter : ((r.run ms).step (.service ready)).connection.phase = .connected) :
    let r' := (r.run ms).step (.service ready)
    r'.socket.accepted ++ r'.connection.handshake.bytes = r'.log.requests ∧
      (r'.connection.handshake.bytes = [] ↔ n.stage.hasAsked = true ∧
        ((r.run ms).connection.flushIf ready).2.handshake.bytes = []) :=
  ⟨requests_of_connected hr ms ready hbefore,
    Connection.handshake_service_eq_nil_iff hbefore hafter⟩

theorem drained_of_patient_proxy :
    let r := throughProxy {
      reads := [.data [5, 0], .fail .blocked, .data [5, 0, 0, 1, 1, 2, 3, 4, 5, 6]]
      writes := [.accept 100, .accept 100] }
    let both : Readiness := { readable := true, writable := true }
    let r' := (r.run [.service both]).step (.service both)
    Begun true r ∧ (r.run [.service both]).connection.phase =
      .negotiating { stage := .v5 .connect, host := "host", port := 80 } ∧
    r'.connection.phase = .connected ∧ r'.connection.handshake.bytes = [] ∧
      r'.socket.accepted = r'.log.requests := by
  intro r both r'
  have hr : Begun true r := .dialed (dial_scripted _)
  have hbefore : (r.run [.service both]).connection.phase =
      .negotiating { stage := .v5 .connect, host := "host", port := 80 } := by decide +kernel
  have hafter : r'.connection.phase = .connected := by decide +kernel
  obtain ⟨hrequests, hdrained⟩ := drained_iff hr [.service both] both hbefore hafter
  have hempty : r'.connection.handshake.bytes = [] := hdrained.2 ⟨rfl, by decide +kernel⟩
  rw [hempty, List.append_nil] at hrequests
  exact ⟨hr, hbefore, hafter, hempty, hrequests⟩

/-- The proxy says all that it has to say before it has got anything. The requests stay behind, also
when messages are sent. -/
theorem not_drained_of_hasty_proxy :
    let r := throughProxy {
      reads := [.data [5, 0, 5, 0, 0, 1, 1, 2, 3, 4, 5, 6]], writes := [.accept 100] }
    let r' := (r.run []).step (.service .reading)
    Begun true r ∧ (r.run []).connection.phase =
      .negotiating { stage := .v5 .methods, host := "host", port := 80 } ∧
    r'.connection.phase = .connected ∧ r'.socket.accepted = [] ∧
      r'.connection.handshake.bytes = [5, 1, 0, 5, 1, 0, 3, 4, 104, 111, 115, 116, 0, 80] ∧
      (r'.run [.queue [97], .service .writing]).socket.accepted = [97, 10] := by
  intro r r'
  exact ⟨.dialed (dial_scripted _), rfl, by decide +kernel, by decide +kernel, by decide +kernel,
    by decide +kernel⟩

end Run

end LineTunnel
