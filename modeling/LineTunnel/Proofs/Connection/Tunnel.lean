import LineTunnel.Proofs.Connection.Outgoing
import LineTunnel.Proofs.Connection.Receiving

/-! A tunnel stands only where the proxy has granted it. What the proxy says up to there goes to
the negotiation and what follows it to the owner, each byte once and in order, however the stream
is cut into pieces. -/

namespace LineTunnel

open Socks (Granted Heard)

namespace Phase

def Agrees (canPrompt : Bool) (version : Socks.Version) (said : Bytes) : Phase → Prop
  | unconnected opening =>
    ∃ n, opening = some n ∧ n.stage.version = version ∧ Heard canPrompt n.stage said
  | negotiating n => n.stage.version = version ∧ Heard canPrompt n.stage said
  | connected => Granted canPrompt version said

variable {canPrompt : Bool} {version : Socks.Version} {said : Bytes} {p : Phase}

theorem Agrees.mono {canPrompt' : Bool} (h : p.Agrees canPrompt version said)
    (hprompt : canPrompt = true → canPrompt' = true) : p.Agrees canPrompt' version said := by
  cases p with
  | unconnected opening =>
    obtain ⟨n, hn, hversion, hheard⟩ := h
    exact ⟨n, hn, hversion, hheard.mono hprompt⟩
  | negotiating n => exact ⟨h.1, h.2.mono hprompt⟩
  | connected => exact Granted.mono h hprompt

theorem Agrees.leads {result : Except Failure Unit} {bs : Bytes} {p' : Phase}
    (h : p.Agrees canPrompt version said) (hleads : Leads canPrompt result p bs p')
    (hresult : p' ≠ .connected → result = .ok ()) :
    p'.Agrees canPrompt version (said ++ bs) := by
  cases hleads with
  | same hdirect => rwa [List.append_nil]
  | opened =>
    obtain ⟨n, rfl, hversion, hheard⟩ := h
    rw [List.append_nil]
    exact ⟨hversion, hheard⟩
  | reopened hstage =>
    obtain ⟨n, hn, hversion, hheard⟩ := h
    cases hn
    rw [List.append_nil]
    exact ⟨_, rfl, hstage ▸ hversion, hstage ▸ hheard⟩
  | negotiating hversion hheard =>
    obtain ⟨hversion', hheard'⟩ := h
    exact ⟨hversion.trans hversion', hheard (hresult nofun) hheard'⟩
  | connected hgranted =>
    obtain ⟨hversion, hheard⟩ := h
    rw [← hversion]
    exact hgranted hheard

end Phase

namespace Run

variable {σ : Type}

/-- The proxy has said this much, and what was taken from the socket beyond that is on its way to
the owner. A connection that has lost its socket meanwhile is given up. -/
structure Parsed (version : Socks.Version) (f : Framing) (r : Run σ) (said : Bytes) : Prop where
  tied : r.Tied
  framing : r.connection.framing = f
  taken : r.socket.taken = said ++ r.log.output ++ r.connection.inbound.bytes
  silent : r.log.output = [] ∨ r.connection.phase = .connected
  agrees : r.connection.phase.Agrees r.connection.prompter.isSome version said ∨
    r.connection.socket = none ∧ r.connection.phase ≠ .connected
  cut : r.log.CutBy f

variable {version : Socks.Version} {f : Framing} {r r' : Run σ} {m : Move σ} {events : Log}
  {said taken requests messages replies : Bytes}

theorem Change.output_eq_nil (hc : Change m r r' events taken requests messages replies)
    (hm : ∀ n, m ≠ .take n) (hphase : r.connection.phase ≠ .connected) : events.output = [] := by
  refine List.flatMap_eq_nil_iff.2 fun e he => ?_
  cases e with
  | received raw message => exact absurd (hc.received raw message he).1 hphase
  | handedOut bs =>
    obtain ⟨n, hn⟩ := hc.handedOut bs he
    exact absurd hn (hm n)
  | queued message => rfl
  | dropped message => rfl
  | requested bs => rfl

theorem Parsed.change (h : Parsed version f r said)
    (hc : Change m r r' events taken requests messages replies)
    (hm : (∀ n, m ≠ .take n) ∨ r.connection.phase = .connected) :
    Parsed version f r' (said ++ replies) where
  tied := hc.tied
  framing := hc.framing.trans h.framing
  taken := by
    obtain ⟨result, -, hleads⟩ := hc.leads
    exact hc.taken_eq h.taken (h.silent.imp id fun hconnected => (hleads.connected_of hconnected).1)
  silent := by
    obtain ⟨result, -, hleads⟩ := hc.leads
    by_cases hconnected : r.connection.phase = .connected
    · exact .inr (hleads.connected_of hconnected).2
    · have hbefore := h.silent.resolve_right hconnected
      have hnow := hc.output_eq_nil (hm.resolve_right hconnected) hconnected
      rw [hc.log, Log.output_append, hbefore, hnow]
      exact .inl rfl
  agrees := by
    rcases h.agrees with hagrees | ⟨hclosed, hphase⟩
    · obtain ⟨result, hresult, hleads⟩ := hc.leads
      cases hsocket : r'.connection.socket with
      | some s =>
        refine .inl (Phase.Agrees.mono (hagrees.leads hleads fun _ => ?_) hc.prompter)
        exact hresult (by rw [hsocket]; rfl)
      | none =>
        -- without a socket it only counts whether the tunnel was granted first
        by_cases hconnected : r'.connection.phase = .connected
        · exact .inl (Phase.Agrees.mono (hagrees.leads hleads fun hno => absurd hconnected hno)
            hc.prompter)
        · exact .inr ⟨rfl, hconnected⟩
    · obtain ⟨hsocket, hback⟩ := hc.closed hclosed
      exact .inr ⟨hsocket, fun hconnected => hphase (hback hconnected)⟩
  cut := by
    rw [hc.log]
    exact h.cut.append (h.framing ▸ hc.cutBy)

theorem Parsed.forwards (h : Parsed version f r said)
    (hconnected : r.connection.phase = .connected) : Forwards f said r where
  tied := h.tied
  framing := h.framing
  connected := hconnected
  taken := h.taken
  cut := h.cut

theorem parsed_dial {machine : Machine σ} {bindAddress : Option String} {host : String}
    {port : UInt16} {c : Connection (Recorded σ)} {server : Socks.Server}
    (hserver : c.server = some server) (hr : dial machine bindAddress host port c = some r) :
    Parsed server.version c.framing r [] := by
  have hfresh := fresh_dial hr
  obtain ⟨stream, watcher, opening, phase, handshake, rfl, hphase, -, hcases⟩ := dial_eq_some hr
  rcases hcases with ⟨hnone, -⟩ | ⟨server', n, hsome, rfl, hversion, hheard⟩
  · rw [hserver] at hnone
    cases hnone
  · cases hserver.symm.trans hsome
    refine ⟨hfresh.tied, rfl, ?_, .inl hfresh.output, .inl ?_,
      fun raw message hmem => (hfresh.received raw message hmem).elim⟩
    · rw [hfresh.output]
      rfl
    · rcases hphase with rfl | rfl
      · exact ⟨hversion, hheard _⟩
      · exact ⟨n, rfl, hversion, hheard _⟩

variable [Transport σ]

theorem Parsed.run (h : Parsed version f r said) {ms : List (Move σ)}
    (hms : ∀ m ∈ ms, ∀ n, m ≠ .take n) : ∃ said', Parsed version f (r.run ms) said' := by
  refine run_induction (P := fun r => ∃ said, Parsed version f r said) ?_ ?_ ⟨said, h⟩
  · rintro r ⟨said, h⟩
    exact h.tied
  · rintro r r' m events taken requests messages replies hm ⟨said, h⟩ hc
    exact ⟨_, h.change hc (.inl (hms m hm))⟩

/-- A connection through a proxy becomes connected only if what was received begins with all that
a proxy says when it grants a tunnel. From then on what was received behind that is what the owner
got, followed by what still waits. -/
theorem granted_of_connected {machine : Machine σ} {bindAddress : Option String} {host : String}
    {port : UInt16} {c : Connection (Recorded σ)} {server : Socks.Server}
    (hserver : c.server = some server) (hr : dial machine bindAddress host port c = some r)
    {ms : List (Move σ)} (hms : ∀ m ∈ ms, ∀ n, m ≠ .take n)
    (hconnected : (r.run ms).connection.phase = .connected) :
    ∃ granted, Granted (r.run ms).connection.prompter.isSome server.version granted ∧
      granted <+: (r.run ms).socket.taken ∧
      ∀ ns, ((r.run ms).run ns).socket.taken = granted ++ ((r.run ms).run ns).log.output ++
          ((r.run ms).run ns).connection.inbound.bytes ∧
        ((r.run ms).run ns).log.CutBy c.framing := by
  obtain ⟨granted, h⟩ := (parsed_dial hserver hr).run hms
  refine ⟨granted, ?_, ?_, ?_⟩
  · rcases h.agrees with hagrees | ⟨-, hphase⟩
    · rw [hconnected] at hagrees
      exact hagrees
    · exact absurd hconnected hphase
  · rw [h.taken, List.append_assoc]
    exact List.prefix_append ..
  · intro ns
    have hlater := (h.forwards hconnected).run ns
    exact ⟨hlater.taken, hlater.cut⟩

theorem granted_of_connected_in_pieces :
    let r := throughProxy {
      reads := [.data [5], .data [0, 5], .fail .blocked,
        .data [0, 0, 1, 1, 2, 3, 4, 5, 6, 104, 13, 10]]
      writes := [.accept 2, .accept 5, .accept 100, .accept 2] }
    let both : Readiness := { readable := true, writable := true }
    let ms : List (Move Script) := [.service both, .service both]
    (r.run ms).connection.phase = .connected ∧
      ((r.run ms).run [.next]).log.returned = [[104]] ∧
      ∃ granted, Granted (r.run ms).connection.prompter.isSome .v5 granted ∧
        granted <+: (r.run ms).socket.taken ∧
        ∀ ns, ((r.run ms).run ns).socket.taken = granted ++ ((r.run ms).run ns).log.output ++
            ((r.run ms).run ns).connection.inbound.bytes ∧
          ((r.run ms).run ns).log.CutBy ⟨10, some 13⟩ := by
  intro r both ms
  have hconnected : (r.run ms).connection.phase = .connected := by decide +kernel
  exact ⟨hconnected, by decide +kernel,
    granted_of_connected rfl (dial_scripted _) (by simp [ms]) hconnected⟩

end Run

end LineTunnel
