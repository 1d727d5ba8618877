import LineTunnel.Proofs.Connection.Outgoing
import LineTunnel.Proofs.Connection.Reading
import LineTunnel.Proofs.Socks.Verdict
import LineTunnel.Proofs.Transport.Giving

/-! A service call that reads while the decision of the proxy is awaited. A proxy may decide and
close in one go: then its decision counts, and the close is reported beside a tunnel that was
granted, whose last messages can still be taken, but not in place of a refusal. -/

namespace LineTunnel

variable {σ : Type}

namespace Connection

section

variable {c : Connection σ} {n : Socks.Negotiation} {reply rest : Bytes}

theorem advance_of_grants (hphase : c.phase = .negotiating n)
    (hbytes : c.inbound.bytes = reply ++ rest) (h : Socks.Grants n.stage reply) :
    c.advance = (.ok (), { c with
      phase := .connected, inbound := c.inbound.discard reply.length }, []) := by
  have hadvance := Socks.Exchange.advance_of_grants (x := ⟨n, c.inbound, c.handshake⟩) hbytes h
    c.prompter.isSome
  unfold advance
  rw [hphase]
  dsimp only
  rw [hadvance]
  rfl

theorem advance_of_refuses {cause : SocksFailure} (hphase : c.phase = .negotiating n)
    (hbytes : c.inbound.bytes = reply ++ rest) (h : Socks.Refuses n.stage reply cause) :
    ∃ inbound, c.advance = (.error (.socks cause), { c with inbound }, []) := by
  obtain ⟨taken, hadvance⟩ := Socks.Exchange.advance_of_refuses
    (x := ⟨n, c.inbound, c.handshake⟩) hbytes h c.prompter.isSome
  refine ⟨c.inbound.discard taken, ?_⟩
  unfold advance
  rw [hphase]
  dsimp only
  rw [hadvance]
  rfl

theorem advance_of_undecided (hphase : c.phase = .negotiating n)
    (hasked : n.stage.hasAsked = true) (h : Socks.Undecided n.stage c.inbound.bytes) :
    c.advance = (.ok (), c, []) := by
  have hadvance := Socks.Exchange.advance_of_undecided (x := ⟨n, c.inbound, c.handshake⟩) h hasked
    c.prompter.isSome
  unfold advance
  rw [hphase]
  dsimp only
  rw [hadvance, ← hphase]

end

theorem finish_ending {c : Connection σ} (hf : c.failure = none) (ending : Transport.Ending)
    (waiting : Bool) {told : List (Notice σ)} (htold : closedSockets told = []) :
    ∃ socket watcher told', c.finish ending.result waiting told =
      ⟨{ dataWaiting := waiting, failure := ending.failure? },
        { c with socket, watcher, failure := ending.failure? }, told'⟩ := by
  unfold Transport.Ending.result
  cases ending.failure? with
  | none =>
    obtain ⟨watcher, told', -, hsettle⟩ := c.settle_eq waiting htold
    exact ⟨c.socket, watcher, told', hsettle.trans (by rw [hf])⟩
  | some f =>
    obtain ⟨watcher, told', -, hfail⟩ := c.fail_eq f waiting htold
    exact ⟨none, watcher, told', hfail⟩

variable [Transport σ] {c : Connection σ} {s : σ} {bs : Bytes} {ending : Transport.Ending}

theorem fill_of_gives (hs : c.socket = some s) (hgives : Transport.Gives s bs ending)
    (hroom : c.inbound.length + bs.length < c.inbound.ceiling) :
    ∃ socket inbound, inbound.bytes = c.inbound.bytes ++ bs ∧
      c.fill = (ending.result, { c with socket, inbound }) := by
  obtain ⟨hresult, hbytes⟩ := Transport.fill_of_gives_of_lt hgives hroom
  exact ⟨_, _, hbytes, by rw [fill_open hs, hresult]⟩

section

variable {n : Socks.Negotiation} {socket : Option σ} {inbound : ByteQueue} {reply rest : Bytes}

theorem receive_of_grants (hf : c.failure = none) (hphase : c.phase = .negotiating n)
    (hfill : c.fill = (ending.result, { c with socket, inbound }))
    (hbytes : inbound.bytes = reply ++ rest) (h : Socks.Grants n.stage reply) :
    ∃ socket watcher told, c.receive =
      ⟨{ dataWaiting := !rest.isEmpty, failure := ending.failure? },
        { c with
          socket, watcher, phase := .connected, inbound := inbound.discard reply.length
          failure := ending.failure? }, told⟩ := by
  have hadvance := advance_of_grants (c := { c with socket, inbound }) hphase hbytes h
  have hrest : (inbound.discard reply.length).isEmpty = rest.isEmpty := by
    unfold ByteQueue.isEmpty
    rw [ByteQueue.bytes_discard, hbytes, List.drop_left]
  obtain ⟨socket', watcher, told, hfinish⟩ := finish_ending
    (c := { c with socket, phase := .connected, inbound := inbound.discard reply.length })
    hf ending (!(inbound.discard reply.length).isEmpty) closedSockets_nil
  rw [hrest] at hfinish
  refine ⟨socket', watcher, told, ?_⟩
  rw [receive_of_advance hfill hadvance, ← hfinish, ← hrest]
  rfl

theorem receive_of_refuses {cause : SocksFailure} (hphase : c.phase = .negotiating n)
    (hfill : c.fill = (ending.result, { c with socket, inbound }))
    (hbytes : inbound.bytes = reply ++ rest) (h : Socks.Refuses n.stage reply cause) :
    ∃ inbound watcher told, c.receive = ⟨{ failure := some (.socks cause) },
      { c with
        socket := none, watcher, inbound, failure := some (.socks cause) }, told⟩ := by
  obtain ⟨inbound', hadvance⟩ :=
    advance_of_refuses (c := { c with socket, inbound }) hphase hbytes h
  obtain ⟨watcher, told, -, hfail⟩ :=
    fail_eq { c with socket, inbound := inbound' } (.socks cause) false closedSockets_nil
  refine ⟨inbound', watcher, told, ?_⟩
  rw [receive_of_advance hfill hadvance, ← hfail, isConnected]
  dsimp only
  rw [hphase]
  rfl

theorem receive_of_undecided (hf : c.failure = none) (hphase : c.phase = .negotiating n)
    (hasked : n.stage.hasAsked = true)
    (hfill : c.fill = (ending.result, { c with socket, inbound }))
    (h : Socks.Undecided n.stage inbound.bytes) :
    ∃ socket watcher told, c.receive = ⟨{ failure := ending.failure? },
      { c with socket, watcher, inbound, failure := ending.failure? }, told⟩ := by
  have hadvance := advance_of_undecided (c := { c with socket, inbound }) hphase hasked h
  obtain ⟨socket', watcher, told, hfinish⟩ :=
    finish_ending (c := { c with socket, inbound }) hf ending false closedSockets_nil
  refine ⟨socket', watcher, told, ?_⟩
  rw [receive_of_advance hfill hadvance, ← hfinish, isConnected]
  dsimp only
  rw [hphase]
  rfl

end

/-- If the bytes that were buffered and those that the socket gives begin with a reply that grants
the tunnel, it stands, and what follows the reply waits for the owner. If they begin with a refusal,
the connection fails with its cause. How the stream ends behind these bytes is reported beside a
tunnel, and while there is no decision, but not in place of a refusal. -/
theorem verdict_before_ending {n : Socks.Negotiation} (hs : c.socket = some s)
    (hf : c.failure = none) (hphase : c.phase = .negotiating n)
    (hstage : n.stage = .v4 ∨ n.stage = .v5 .connect)
    (hceiling : c.inbound.ceiling = ByteQueue.readCeiling)
    (hgives : Transport.Gives s bs ending)
    (hroom : c.inbound.length + bs.length < ByteQueue.readCeiling) :
    let e := c.service .reading
    (∀ reply rest, c.inbound.bytes ++ bs = reply ++ rest → Socks.Grants n.stage reply →
      e.answer = { dataWaiting := !rest.isEmpty, failure := ending.failure? } ∧
      e.after.phase = .connected ∧ e.after.inbound.bytes = rest ∧
      e.after.failure = ending.failure? ∧ e.after.nextAll = c.framing.messages rest) ∧
    (∀ reply rest cause, c.inbound.bytes ++ bs = reply ++ rest →
      Socks.Refuses n.stage reply cause →
      e.answer = { failure := some (.socks cause) } ∧
      e.after.failure = some (.socks cause)) ∧
    (Socks.Undecided n.stage (c.inbound.bytes ++ bs) →
      e.answer = { failure := ending.failure? } ∧ e.after.phase = .negotiating n ∧
      e.after.inbound.bytes = c.inbound.bytes ++ bs ∧ e.after.failure = ending.failure?) := by
  intro e
  have he : e = c.receive := service_of_sent hs hf (by rw [hphase]; rfl) rfl rfl rfl
  obtain ⟨socket, inbound, hbytes, hfill⟩ := fill_of_gives hs hgives (hceiling ▸ hroom)
  rw [he, ← hbytes]
  refine ⟨fun reply rest hheard hgrants => ?granted,
    fun reply rest cause hheard hrefuses => ?refused, fun hundecided => ?undecided⟩
  case granted =>
    obtain ⟨socket', watcher, told, hreceive⟩ := receive_of_grants hf hphase hfill hheard hgrants
    have hrest : (inbound.discard reply.length).bytes = rest := by
      rw [ByteQueue.bytes_discard, hheard, List.drop_left]
    rw [hreceive, nextAll_eq rfl]
    exact ⟨rfl, rfl, hrest, rfl, congrArg c.framing.messages hrest⟩
  case refused =>
    obtain ⟨inbound', watcher, told, hreceive⟩ :=
      receive_of_refuses hphase hfill hheard hrefuses
    rw [hreceive]
    exact ⟨rfl, rfl⟩
  case undecided =>
    have hasked : n.stage.hasAsked = true := by
      rcases hstage with h | h <;> rw [h] <;> rfl
    obtain ⟨socket', watcher, told, hreceive⟩ :=
      receive_of_undecided hf hphase hasked hfill hundecided
    rw [hreceive]
    exact ⟨rfl, hphase, rfl, rfl⟩

theorem verdict_before_ending_of_closing_proxy :
    let r := Run.throughProxy {
      reads := [.data [5, 0], .fail .blocked, .data [5, 0, 0], .fail .blocked,
        .data [1, 1, 2, 3], .fail .interrupted, .data [4, 5, 6, 104, 13, 10], .endOfStream]
      writes := [.accept 3, .accept 100] }
    let both : Readiness := { readable := true, writable := true }
    let c := (r.run [.service both, .service both]).connection
    let e := c.service .reading
    c.inbound.bytes = [5, 0, 0] ∧
      e.answer = { dataWaiting := true, failure := some (.link .closedByPeer) } ∧
      e.after.phase = .connected ∧ e.after.isActive = false ∧ e.after.nextAll = [[104]] := by
  intro r both c e
  have hinbound : c.inbound.bytes = [5, 0, 0] := by decide +kernel
  have hceiling : c.inbound.ceiling = ByteQueue.readCeiling := by decide +kernel
  have hs : c.socket = some (r.run [.service both, .service both]).socket := by decide +kernel
  have hreads : (r.run [.service both, .service both]).socket.stream.reads =
      [.data [1, 1, 2, 3], .fail .interrupted, .data [4, 5, 6, 104, 13, 10], .endOfStream] := by
    decide +kernel
  have hgives : Transport.Gives (r.run [.service both, .service both]).socket
      ([1, 1, 2, 3] ++ ([4, 5, 6, 104, 13, 10] ++ [])) .endOfStream := by
    refine Recorded.gives (Script.gives_data (by decide) hreads fun _ hs' => ?_) rfl
    refine Script.gives_interrupted hs' fun _ hs'' => ?_
    exact Script.gives_data (by decide) hs'' fun _ hs''' => Script.gives_endOfStream hs'''
  obtain ⟨hgranted, -, -⟩ := verdict_before_ending hs (by decide +kernel)
    (n := { stage := .v5 .connect, host := "host", port := 80 }) (by decide +kernel) (.inr rfl)
    hceiling hgives (by rw [ByteQueue.length, hinbound]; decide)
  obtain ⟨hanswer, hconnected, -, hfailure, hmessages⟩ :=
    hgranted [5, 0, 0, 1, 1, 2, 3, 4, 5, 6] [104, 13, 10] (by rw [hinbound]; rfl)
      (.v5 ⟨0, 1, 1, [2, 3, 4, 5, 6], rfl, .inl ⟨rfl, rfl⟩⟩)
  refine ⟨hinbound, hanswer, hconnected, by decide +kernel, hmessages.trans ?_⟩
  decide +kernel

end Connection

end LineTunnel
