import LineTunnel.Proofs.Connection.Lifetime

/-! What holds of a connection for life: the queues keep to their ceilings, the phase fits the
proxy, and a failure is kept on an open socket only while a negotiation lasts. -/

namespace LineTunnel

variable {σ : Type}

theorem Transport.fits_fill [Transport σ] {ceiling : Nat} (s : σ) {q : ByteQueue}
    (h : q.Fits ceiling) : (fill s q).2.2.Fits ceiling := by
  fun_induction fill s q with
  | case1 s q f hq => exact h
  | case2 s q q' hq s' hr => exact h.reserve hq
  | case3 s q q' hq bs s' hr hbs ih => exact ih ((h.reserve hq).push bs)
  | case4 s q q' hq e s' hr hblocked => exact h.reserve hq
  | case5 s q q' hq e s' hr hblocked hinterrupted ih => exact ih (h.reserve hq)
  | case6 s q q' hq e s' hr hblocked hinterrupted => exact h.reserve hq

namespace Phase

theorem negotiation?_opened (opening : Option Socks.Negotiation) :
    (opened opening).negotiation? = opening := by
  cases opening <;> rfl

theorem opened_ne_unconnected (opening opening' : Option Socks.Negotiation) :
    opened opening ≠ unconnected opening' := by
  cases opening <;> exact nofun

theorem negotiation?_ofProgress {p : Except Failure Socks.Progress} {n n' : Socks.Negotiation}
    (h : (ofProgress p n).negotiation? = some n') : n' = n := by
  unfold ofProgress at h
  split at h
  · cases h
  · exact (Option.some.inj h).symm

theorem ofProgress_ne_unconnected (p : Except Failure Socks.Progress) (n : Socks.Negotiation)
    (opening : Option Socks.Negotiation) : ofProgress p n ≠ unconnected opening := by
  unfold ofProgress
  split <;> exact nofun

end Phase

namespace Connection

/-- Nothing has been heard before a connect completes, and the negotiation that will follow is where
it begins, with room for its next request. -/
structure Unopened (inbound handshake : ByteQueue) (opening : Option Socks.Negotiation) : Prop where
  inbound : inbound.bytes = []
  first : ∀ n, opening = some n → n.stage.isFirst = true
  handshake : ∀ n, opening = some n → n.stage.hasAsked = false →
    handshake.length ≤ Socks.Frame.maxMethods

structure Sound (c : Connection σ) : Prop where
  inbound : c.inbound.Fits ByteQueue.readCeiling
  outbound : c.outbound.Fits ByteQueue.writeCeiling
  handshake : c.handshake.Fits ByteQueue.writeCeiling
  proxied : ∀ n, c.phase.negotiation? = some n → ∃ server, c.server = some server ∧
    n.Suits server.version
  unopened : ∀ opening, c.phase = .unconnected opening →
    Unopened c.inbound c.handshake opening
  failed : c.isActive = true → c.failure ≠ none → ∃ n, c.phase = .negotiating n
  direct : c.isActive = true → c.phase = .unconnected none → c.server = none

theorem sound_create (framing : Framing) (server : Option Socks.Server) :
    (create framing server : Connection σ).Sound where
  inbound := ByteQueue.fits_empty _
  outbound := ByteQueue.fits_empty _
  handshake := ByteQueue.fits_empty _
  proxied := nofun
  unopened opening h := by
    cases h
    exact ⟨rfl, nofun, nofun⟩
  failed := nofun
  direct := nofun

namespace Sound

variable {c : Connection σ}

theorem watched (h : c.Sound) (watcher : Option Watcher) : Sound { c with watcher } :=
  { h with }

theorem closed (h : c.Sound) (watcher : Option Watcher) (failure : Option Failure) :
    Sound { c with watcher, socket := (none : Option σ), failure } :=
  { h with failed := nofun, direct := nofun }

theorem failure_of_connected (h : c.Sound) (hactive : c.isActive = true)
    (hconnected : c.phase = .connected) : c.failure = none := by
  cases hfailure : c.failure with
  | none => rfl
  | some f =>
    obtain ⟨n, hphase⟩ := h.failed hactive (hfailure ▸ nofun)
    cases hconnected.symm.trans hphase

theorem negotiating_of_awaiting (h : c.Sound) {n : Socks.Negotiation}
    (hn : c.phase.negotiation? = some n) (hawaiting : n.awaiting = true) :
    c.phase = .negotiating n := by
  obtain ⟨server, -, hsuits⟩ := h.proxied n hn
  have hlater := hsuits.prompted hawaiting
  cases hphase : c.phase with
  | unconnected opening =>
    rw [hphase] at hn
    have hfirst := (h.unopened opening hphase).first n hn
    exact nomatch hfirst.symm.trans hlater
  | negotiating m =>
    rw [hphase] at hn
    cases hn
    rfl
  | connected =>
    rw [hphase] at hn
    cases hn

theorem queue (h : c.Sound) (message : Bytes) : (c.queue message).after.Sound := by
  rcases c.queue_cases message with
    ⟨watcher, outbound, told, hout, -, hqueue⟩ | ⟨f, watcher, told, -, hqueue⟩
  · rw [hqueue]
    exact { h with outbound := h.outbound.append hout }
  · rw [hqueue]
    exact { h with }

theorem submit (h : c.Sound) (user password : String) : (c.submit user password).after.Sound := by
  rcases c.submit_cases user password with
    ⟨n, frame, watcher, handshake, told, hn, hawaiting, -, hout, -, hsubmit⟩ |
    ⟨f, failure, watcher, told, -, hfailure, hsubmit⟩
  · have hphase := h.negotiating_of_awaiting hn hawaiting
    rw [hsubmit, hphase]
    obtain ⟨server, hserver, hsuits⟩ := h.proxied n hn
    refine { h with
      handshake := h.handshake.append hout
      proxied := fun m hm => ?_
      unopened := nofun
      failed := fun _ _ => ⟨_, rfl⟩
      direct := nofun }
    cases hm
    exact ⟨server, hserver, hsuits.version, nofun⟩
  · rw [hsubmit]
    refine { h with failed := fun hactive hsome => ?_ }
    rcases hfailure with ⟨rfl, -⟩ | ⟨-, n, hn, hawaiting⟩
    · exact h.failed hactive hsome
    · exact ⟨n, h.negotiating_of_awaiting hn hawaiting⟩

theorem take (h : c.Sound) (n : Nat) : (c.take n).2.Sound := by
  rcases c.take_cases n with htake | ⟨-, htake⟩
  · rw [htake]
    exact h
  · rw [htake]
    refine { h with
      inbound := h.inbound.discard n
      unopened := fun opening hphase => ?_ }
    have hopening := h.unopened opening hphase
    refine { hopening with inbound := ?_ }
    rw [ByteQueue.bytes_discard, hopening.inbound, List.drop_nil]

theorem next (h : c.Sound) : c.next.2.Sound := by
  rcases c.next_cases with hnext | ⟨hconnected, body, rest, -, -, hnext⟩
  · rw [hnext]
    exact h
  · have hphase : c.phase = .connected := by simpa [isConnected] using hconnected
    rw [hnext]
    refine { h with
      inbound := h.inbound.discard _
      unopened := fun opening hopening => ?_ }
    exact nomatch hphase.symm.trans hopening

theorem shutdown (h : c.Sound) : c.shutdown.after.Sound := by
  obtain ⟨watcher, told, hshutdown⟩ := c.shutdown_eq
  rw [hshutdown]
  refine ⟨h.inbound.reset, h.outbound.reset, h.handshake.reset, nofun, ?_, nofun, nofun⟩
  intro opening hphase
  cases hphase
  exact ⟨rfl, nofun, nofun⟩

theorem adopt (h : c.Sound) (socket : σ) : (c.adopt socket).after.Sound := by
  obtain ⟨watcher, told, hadopt⟩ := c.adopt_eq socket
  rw [hadopt]
  exact ⟨h.inbound.reset, h.outbound.reset, h.handshake.reset, nofun, nofun,
    fun _ hsome => absurd rfl hsome, nofun⟩

theorem startConnect (h : c.Sound) (machine : Machine σ) (bindAddress : Option String)
    (host : String) (port : UInt16) :
    (c.startConnect machine bindAddress host port).after.Sound := by
  cases hanswer : (c.startConnect machine bindAddress host port).answer with
  | error f =>
    obtain ⟨watcher, hafter⟩ := startConnect_eq_error hanswer
    rw [hafter]
    refine ⟨h.inbound.reset, h.outbound.reset, h.handshake.reset, nofun, ?_, nofun, nofun⟩
    intro opening hphase
    cases hphase
    exact ⟨rfl, nofun, nofun⟩
  | ok u =>
    obtain ⟨watcher, opening, phase, handshake, dialed, realHost, realPort, -, hphase, hcases,
      hafter⟩ := startConnect_eq_ok hanswer
    have hopening : phase.negotiation? = opening := by
      rcases hphase with rfl | rfl
      · exact Phase.negotiation?_opened opening
      · rfl
    have hunopened : ∀ opening', phase = .unconnected opening' → opening' = opening := by
      rintro opening' rfl
      exact hopening
    rw [hafter]
    rcases hcases with ⟨hserver, hnone, rfl⟩ | ⟨server, n, hserver, hsome, hstart⟩
    · refine ⟨h.inbound.reset, h.outbound.reset, h.handshake.reset, fun m hm => ?_,
        fun opening' hopening' => ?_, fun _ hfailure => absurd rfl hfailure, fun _ _ => hserver⟩
      · exact nomatch (hopening.symm.trans hm).symm.trans hnone
      · rw [hunopened opening' hopening', hnone]
        exact ⟨rfl, nofun, nofun⟩
    · obtain ⟨hsuits, hfirst, hroom⟩ := Socks.Negotiation.start_suits hstart
      obtain ⟨frame, -, hout, -⟩ := Socks.Negotiation.start_cases hstart
      refine ⟨h.inbound.reset, h.outbound.reset, h.handshake.reset.append hout, fun m hm => ?_,
        fun opening' hopening' => ?_, fun _ hfailure => absurd rfl hfailure, fun _ hphase => ?_⟩
      · cases (hopening.symm.trans hm).symm.trans hsome
        exact ⟨server, hserver, hsuits⟩
      · rw [hunopened opening' hopening', hsome]
        refine ⟨rfl, fun m hm => ?_, fun m hm hasked => ?_⟩
        · cases hm
          exact hfirst
        · cases hm
          have hlength := hroom hasked
          rwa [ByteQueue.length_reset, Nat.zero_add] at hlength
      · exact nomatch (hunopened none hphase).trans hsome

theorem advance (h : c.Sound) (hf : c.failure = none) : c.advance.2.1.Sound := by
  by_cases hphase : ∃ n, c.phase = .negotiating n
  · obtain ⟨n, hphase⟩ := hphase
    obtain ⟨server, hserver, hsuits⟩ := h.proxied n (by rw [hphase]; rfl)
    obtain ⟨p, x, told, -, hadvance, heq⟩ := advance_negotiating hphase
    have hbefore : (Socks.Exchange.mk n c.inbound c.handshake).Sound server.version :=
      ⟨hsuits, h.inbound, h.handshake⟩
    have hafter : ((Socks.Exchange.mk n c.inbound c.handshake).advance
        c.prompter.isSome).2.Sound server.version := hbefore.advance
    rw [hadvance] at hafter
    rw [heq]
    refine { h with
      inbound := hafter.inbound
      handshake := hafter.outbound
      proxied := fun m hm => ?_
      unopened := fun _ hopening => (Phase.ofProgress_ne_unconnected _ _ _ hopening).elim
      failed := fun _ hfailure => absurd hf hfailure
      direct := fun _ hopening => (Phase.ofProgress_ne_unconnected _ _ _ hopening).elim }
    rw [Phase.negotiation?_ofProgress hm]
    exact ⟨server, hserver, hafter.suits⟩
  · rw [advance_otherwise fun n hn => hphase ⟨n, hn⟩]
    exact h

variable [Transport σ] {s : σ} {ready : Readiness} {result : Except Failure Unit}
  {c' : Connection σ}

theorem flush (h : c.Sound) : c.flush.2.Sound := by
  unfold Connection.flush
  split
  · exact h
  · next s n hs hphase =>
    exact { h with
      handshake := h.handshake.discard _
      unopened := fun opening hopening => nomatch hphase.symm.trans hopening
      failed := fun _ => h.failed (isActive_of_socket hs)
      direct := fun _ => h.direct (isActive_of_socket hs) }
  · next s hs hphase =>
    split
    · exact h
    · exact { h with
        outbound := h.outbound.discard _
        failed := fun _ => h.failed (isActive_of_socket hs)
        direct := fun _ => h.direct (isActive_of_socket hs) }

theorem flushIf (h : c.Sound) (ready : Readiness) : (c.flushIf ready).2.Sound := by
  unfold Connection.flushIf
  split
  · exact h.flush
  · exact h

theorem fill (h : c.Sound) (hphase : c.phase.isOpened = true) : c.fill.2.Sound := by
  unfold Connection.fill
  split
  · exact h
  · next s hs =>
    refine { h with
      inbound := Transport.fits_fill s h.inbound
      unopened := fun opening hopening => ?_
      failed := fun _ => h.failed (isActive_of_socket hs)
      direct := fun _ => h.direct (isActive_of_socket hs) }
    rw [show c.phase = .unconnected opening from hopening] at hphase
    cases hphase

theorem work (h : c.Sound) (hs : c.socket = some s) (hw : Work ready c s result c') :
    c'.Sound := by
  cases hw with
  | known hf => exact h
  | exceptional hf hex =>
    exact { h with
      failed := fun _ hfailure => absurd hf hfailure
      direct := fun _ => h.direct (isActive_of_socket hs) }
  | waiting hf hphase hready => exact h
  | refused hf hphase he =>
    exact { h with
      failed := fun _ hfailure => absurd hf hfailure
      direct := fun _ => h.direct (isActive_of_socket hs) }
  | @opened opening hf hphase he =>
    refine { h with
      proxied := fun n hn => h.proxied n ?_
      unopened := fun _ hopening => (Phase.opened_ne_unconnected _ _ hopening).elim
      failed := fun _ hfailure => absurd hf hfailure
      direct := fun _ hopening => (Phase.opened_ne_unconnected _ _ hopening).elim }
    rw [hphase]
    exact (Phase.negotiation?_opened opening).symm.trans hn
  | unsent hf hphase hsent => exact h.flushIf ready
  | sent hf hphase hsent hready => exact h.flushIf ready
  | read hf hphase hsent hready =>
    obtain ⟨socket, outbound, handshake, -, hflush⟩ := c.flushIf_eq ready
    obtain ⟨socket', inbound, -, hfill⟩ := (c.flushIf ready).2.fill_eq
    have hfilled : (c.flushIf ready).2.fill.2.Sound :=
      (h.flushIf ready).fill (by rwa [hflush])
    exact hfilled.advance (by rwa [hfill, hflush])

theorem service (h : c.Sound) (ready : Readiness) : (c.service ready).after.Sound := by
  cases hs : c.socket with
  | none =>
    rw [service_closed hs]
    exact h
  | some s =>
    obtain ⟨result, c', waiting, told, hw, hquiet, hservice⟩ := service_work hs ready
    have hworked := h.work hs hw
    rw [hservice]
    cases result with
    | ok u =>
      obtain ⟨watcher, told', -, hsettle⟩ := c'.settle_eq waiting hquiet
      change (c'.settle waiting told).after.Sound
      rw [hsettle]
      exact hworked.watched watcher
    | error f =>
      obtain ⟨watcher, told', -, hfail⟩ := c'.fail_eq f waiting hquiet
      change (c'.fail f waiting told).after.Sound
      rw [hfail]
      exact hworked.closed watcher (some f)

theorem apply (h : c.Sound) (op : Operation σ) : (c.apply op).Sound := by
  cases op with
  | queue message => exact h.queue message
  | submit user password => exact h.submit user password
  | service ready => exact h.service ready
  | next => exact h.next
  | take n => exact h.take n
  | setWatcher listener =>
    obtain ⟨watcher, told, -, hset⟩ := c.setWatcher_eq listener
    change (c.setWatcher listener).after.Sound
    rw [hset]
    exact h.watched watcher
  | setPrompter listener => exact { h with }
  | shutdown => exact h.shutdown
  | adopt socket => exact h.adopt socket
  | refuse f => exact h.shutdown
  | startConnect machine bindAddress host port => exact h.startConnect machine bindAddress host port
  | turn f =>
    have hactive : (c.apply (.turn f)).isActive = c.isActive := Option.isSome_map
    exact { h with
      failed := fun h' => h.failed (hactive ▸ h')
      direct := fun h' => h.direct (hactive ▸ h') }

theorem after (h : c.Sound) (ops : List (Operation σ)) : (c.after ops).Sound :=
  after_induction (fun _ op h => h.apply op) h ops

end Sound

end Connection

end LineTunnel
