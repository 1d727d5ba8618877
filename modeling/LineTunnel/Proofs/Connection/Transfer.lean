import LineTunnel.Proofs.Connection.Work
import LineTunnel.Proofs.Transport.Carried

/-! Where the bytes go in one service call. What the socket accepts comes off the front of one of
the two queues to be sent, what is taken from it is added to the queue of what was received, and a
negotiation takes the replies of the proxy off that queue and nothing else. -/

namespace LineTunnel

open Socks (Negotiation Heard Granted)

namespace Phase

def hasAsked (p : Phase) : Bool := p.negotiation?.all (·.stage.hasAsked)

def asked (before after : Phase) : Bytes :=
  match before.negotiation? with
  | none => []
  | some n => if !n.stage.hasAsked && after.hasAsked then n.tunnelRequest else []

theorem hasAsked_of_negotiation? {p : Phase} {n : Negotiation} (h : p.negotiation? = some n) :
    p.hasAsked = n.stage.hasAsked := by
  unfold hasAsked
  rw [h, Option.all_some]

theorem asked_self (p : Phase) : p.asked p = [] := by
  unfold asked
  split
  · rfl
  · next n hn => simp [hasAsked_of_negotiation? hn]

theorem asked_of_not_hasAsked (p : Phase) {p' : Phase} (h : p'.hasAsked = false) :
    p.asked p' = [] := by
  unfold asked
  split
  · rfl
  · rw [h, Bool.and_false]
    rfl

theorem asked_opened (opening : Option Negotiation) :
    (unconnected opening).asked (opened opening) = [] := by
  cases opening with
  | none => rfl
  | some n => exact (negotiating n).asked_self

theorem asked_ofProgress {n n' : Negotiation} {p : Except Failure Socks.Progress}
    (h : p = .ok .connected → n'.stage.hasAsked = true) :
    (negotiating n).asked (ofProgress p n') = n.asked n'.stage := by
  unfold ofProgress
  split
  · unfold Negotiation.asked
    rw [h rfl]
    rfl
  · rfl

/-- One operation leads from a phase to another and takes bytes off what was received. Where it
fails, a negotiation that goes on is given up together with its socket. -/
inductive Leads (canPrompt : Bool) (result : Except Failure Unit) : Phase → Bytes → Phase → Prop
  | same {p : Phase} : (∀ n, p ≠ negotiating n) → Leads canPrompt result p [] p
  | opened {opening : Option Negotiation} :
      Leads canPrompt result (unconnected opening) [] (opened opening)
  | reopened {n n' : Negotiation} : n'.stage = n.stage →
      Leads canPrompt result (unconnected (some n)) [] (unconnected (some n'))
  | negotiating {n n' : Negotiation} {bs : Bytes} : n'.stage.version = n.stage.version →
      (result = .ok () → ∀ {said}, Heard canPrompt n.stage said →
        Heard canPrompt n'.stage (said ++ bs)) →
      Leads canPrompt result (negotiating n) bs (negotiating n')
  | connected {n : Negotiation} {bs : Bytes} :
      (∀ {said}, Heard canPrompt n.stage said → Granted canPrompt n.stage.version (said ++ bs)) →
      Leads canPrompt result (negotiating n) bs connected

theorem Leads.stay {canPrompt : Bool} {result : Except Failure Unit} (p : Phase) :
    Leads canPrompt result p [] p := by
  cases p with
  | negotiating n => exact .negotiating rfl fun _ _ h => by rwa [List.append_nil]
  | unconnected opening => exact .same (by simp)
  | connected => exact .same (by simp)

theorem Leads.connected_of {canPrompt : Bool} {result : Except Failure Unit} {p p' : Phase}
    {bs : Bytes} (h : Leads canPrompt result p bs p') (hp : p = .connected) :
    bs = [] ∧ p' = .connected := by
  cases h with
  | same hdirect => exact ⟨rfl, hp⟩
  | opened => cases hp
  | reopened hstage => cases hp
  | negotiating hversion hheard => cases hp
  | connected hgranted => cases hp

theorem Leads.answered {canPrompt : Bool} {result : Except Failure Unit} {p : Phase}
    {n n' : Negotiation} (hn : p.negotiation? = some n) (hstage : n'.stage = n.stage) :
    Leads canPrompt result p [] (p.withNegotiation n') := by
  cases p with
  | unconnected opening =>
    cases hn
    exact .reopened hstage
  | negotiating m =>
    cases hn
    refine .negotiating (congrArg _ hstage) fun _ said h => ?_
    rwa [hstage, List.append_nil]
  | connected => cases hn

theorem Leads.ofProgress {canPrompt : Bool} {x x' : Socks.Exchange} {bs : Bytes}
    {p : Except Failure Socks.Progress} {read : Except Failure Unit}
    (h : x.Moved canPrompt bs p x') :
    Leads canPrompt ((p.map fun _ => ()).bind fun _ => read) (.negotiating x.negotiation) bs
      (ofProgress p x'.negotiation) := by
  cases p with
  | error f => exact .negotiating h.version fun herror => nomatch herror
  | ok progress =>
    cases progress with
    | needMore => exact .negotiating h.version fun _ => h.heard (.inl rfl)
    | credentialsRequested => exact .negotiating h.version fun _ => h.heard (.inr rfl)
    | connected => exact .connected (h.granted rfl)

end Phase

namespace Connection

variable {σ : Type}

/-- Where the bytes go while a service call works on a connection with the open socket `s`. -/
structure Transfer (result : Except Failure Unit) (c c' : Connection (Recorded σ))
    (s s' : Recorded σ) (taken requests messages replies : Bytes) : Prop where
  socket : c'.socket = some s'
  carried : Recorded.Carried s s' taken (requests ++ messages)
  outbound : c.outbound.bytes = messages ++ c'.outbound.bytes
  handshake : c.handshake.bytes ++ c.phase.asked c'.phase = requests ++ c'.handshake.bytes
  inbound : c.inbound.bytes ++ taken = replies ++ c'.inbound.bytes
  requests : requests = [] ∨ ∃ n, c.phase = .negotiating n
  messages : messages = [] ∨ c.phase = .connected ∧ c.overflowed = false
  failedWrites : s'.failedWrites = s.failedWrites ∨
    result ≠ .ok () ∧ (c.phase = .connected → c'.outbound.bytes ≠ [])
  leads : c.phase.Leads c.prompter.isSome result replies c'.phase
  framing : c'.framing = c.framing
  overflowed : c'.overflowed = c.overflowed
  prompter : c'.prompter = c.prompter

variable {result : Except Failure Unit} {c c' c'' : Connection (Recorded σ)}
  {s s' s'' : Recorded σ}

theorem transfer_socket (result : Except Failure Unit) (c : Connection (Recorded σ))
    (h : Recorded.Carried s s' [] []) (hfailed : s'.failedWrites = s.failedWrites) :
    Transfer result c { c with socket := some s' } s s' [] [] [] [] where
  socket := rfl
  carried := h
  outbound := rfl
  handshake := by rw [Phase.asked_self, List.append_nil, List.nil_append]
  inbound := List.append_nil _
  requests := .inl rfl
  messages := .inl rfl
  failedWrites := .inl hfailed
  leads := .stay c.phase
  framing := rfl
  overflowed := rfl
  prompter := rfl

theorem transfer_none (result : Except Failure Unit) (hs : c.socket = some s) :
    Transfer result c c s s [] [] [] [] := by
  have h := transfer_socket result c (.refl s) rfl
  rwa [← hs] at h

theorem transfer_opened {opening : Option Negotiation} (hphase : c.phase = .unconnected opening)
    (h : Recorded.Carried s s' [] []) (hfailed : s'.failedWrites = s.failedWrites) :
    Transfer result c { c with socket := some s', phase := .opened opening } s s' [] [] [] [] where
  socket := rfl
  carried := h
  outbound := rfl
  handshake := by
    rw [hphase, Phase.asked_opened, List.append_nil, List.nil_append]
  inbound := List.append_nil _
  requests := .inl rfl
  messages := .inl rfl
  failedWrites := .inl hfailed
  leads := by
    rw [hphase]
    exact .opened
  framing := rfl
  overflowed := rfl
  prompter := rfl

theorem Transfer.trans {taken requests messages replies : Bytes}
    (h : Transfer (.ok ()) c c' s s' [] requests messages []) (hphase : c'.phase = c.phase)
    (h' : Transfer result c' c'' s' s'' taken [] [] replies) :
    Transfer result c c'' s s'' taken requests messages replies where
  socket := h'.socket
  carried := by
    have hboth := h.carried.trans h'.carried
    rwa [List.nil_append, List.append_nil, List.append_nil] at hboth
  outbound := by rw [h.outbound, h'.outbound, List.nil_append]
  handshake := by
    -- a request is queued only when something was read, so none is by the first half
    have hfirst := h.handshake
    have hsecond := h'.handshake
    rw [hphase, Phase.asked_self, List.append_nil] at hfirst
    rw [hphase, List.nil_append] at hsecond
    rw [hfirst, List.append_assoc, hsecond]
  inbound := by
    have hfirst := h.inbound
    rw [List.append_nil, List.nil_append] at hfirst
    rw [hfirst, h'.inbound]
  requests := h.requests
  messages := h.messages
  failedWrites := by
    rcases h.failedWrites with hsame | ⟨hfailed, -⟩
    · rw [← hsame, ← hphase]
      exact h'.failedWrites
    · exact absurd rfl hfailed
  leads := by
    have hleads := h'.leads
    rwa [hphase, h.prompter] at hleads
  framing := h'.framing.trans h.framing
  overflowed := h'.overflowed.trans h.overflowed
  prompter := h'.prompter.trans h.prompter

variable [Transport σ]

theorem flush_negotiating {n : Negotiation} (hs : c.socket = some s)
    (hphase : c.phase = .negotiating n) :
    c.flush = ((Transport.drain s c.handshake).1, { c with
      socket := some (Transport.drain s c.handshake).2.1
      handshake := (Transport.drain s c.handshake).2.2 }) := by
  unfold flush
  rw [hs, hphase]

theorem flush_connected (hs : c.socket = some s) (hphase : c.phase = .connected) :
    c.flush = if c.overflowed then (.error (.link .bufferFull), c) else
      ((Transport.drain s c.outbound).1, { c with
        socket := some (Transport.drain s c.outbound).2.1
        outbound := (Transport.drain s c.outbound).2.2 }) := by
  unfold flush
  rw [hs, hphase]

theorem transfer_flush (hs : c.socket = some s) (hphase : c.phase.isOpened = true) :
    ∃ s' requests messages, c.flush.2.phase = c.phase ∧
      Transfer c.flush.1 c c.flush.2 s s' [] requests messages [] := by
  cases hp : c.phase with
  | unconnected opening =>
    rw [hp] at hphase
    cases hphase
  | negotiating n =>
    obtain ⟨bs, hcarried, hbytes⟩ := Recorded.carried_drain s c.handshake
    rw [flush_negotiating hs hp]
    refine ⟨_, bs, [], hp, { transfer_none (.ok ()) hs with
      socket := rfl
      carried := by rwa [List.append_nil]
      handshake := ?_
      requests := .inr ⟨n, hp⟩
      failedWrites := ?_
      leads := .stay c.phase }⟩
    · rw [Phase.asked_self, List.append_nil]
      exact hbytes
    · refine (Recorded.drain_cases s c.handshake).imp id fun h => ⟨h.1, fun hconnected => ?_⟩
      rw [hp] at hconnected
      cases hconnected
  | connected =>
    rw [flush_connected hs hp]
    split
    · exact ⟨s, [], [], hp, transfer_none _ hs⟩
    · next ho =>
      obtain ⟨bs, hcarried, hbytes⟩ := Recorded.carried_drain s c.outbound
      exact ⟨_, [], bs, hp, { transfer_none (.ok ()) hs with
        socket := rfl
        carried := hcarried
        outbound := hbytes
        messages := .inr ⟨hp, by simpa using ho⟩
        failedWrites := (Recorded.drain_cases s c.outbound).imp id fun h => ⟨h.1, fun _ => h.2⟩
        leads := .stay c.phase }⟩

theorem transfer_flushIf (ready : Readiness) (hs : c.socket = some s)
    (hphase : c.phase.isOpened = true) :
    ∃ s' requests messages, (c.flushIf ready).2.phase = c.phase ∧
      Transfer (c.flushIf ready).1 c (c.flushIf ready).2 s s' [] requests messages [] := by
  unfold flushIf
  split
  · exact transfer_flush hs hphase
  · exact ⟨s, [], [], rfl, transfer_none _ hs⟩

theorem transfer_absorb (hs : c.socket = some s) (hphase : c.phase.isOpened = true) :
    ∃ s' taken replies, Transfer c.absorb.1 c c.absorb.2 s s' taken [] [] replies := by
  obtain ⟨bs, hcarried, hbytes⟩ := Recorded.carried_fill s c.inbound
  have hfill := fill_open hs
  cases hp : c.phase with
  | unconnected opening =>
    rw [hp] at hphase
    cases hphase
  | connected =>
    rw [absorb_eq hfill (advance_otherwise (by simp [hp]))]
    exact ⟨_, bs, [], { transfer_none _ hs with
      socket := rfl
      carried := hcarried
      inbound := hbytes.symm
      failedWrites := .inl (Recorded.failedWrites_fill s c.inbound) }⟩
  | negotiating n =>
    obtain ⟨p, x, told, -, hadvance, heq⟩ := advance_negotiating (c := { c with
      socket := some (Transport.fill s c.inbound).2.1
      inbound := (Transport.fill s c.inbound).2.2 }) hp
    obtain ⟨taken, hmoved⟩ := Socks.Exchange.moved_advance c.prompter.isSome
      ⟨n, (Transport.fill s c.inbound).2.2, c.handshake⟩
    rw [hadvance] at hmoved
    rw [absorb_eq hfill heq]
    refine ⟨_, bs, taken, { transfer_none (.ok ()) hs with
      socket := rfl
      carried := hcarried
      handshake := ?_
      inbound := ?_
      failedWrites := .inl (Recorded.failedWrites_fill s c.inbound)
      leads := ?_ }⟩
    · rw [hp, Phase.asked_ofProgress hmoved.ended, List.nil_append]
      exact hmoved.outbound.symm
    · rw [← hbytes]
      exact hmoved.inbound
    · rw [hp]
      exact .ofProgress hmoved

theorem transfer_work {ready : Readiness} (hs : c.socket = some s)
    (h : Work ready c s result c') :
    ∃ s' taken requests messages replies,
      Transfer result c c' s s' taken requests messages replies := by
  cases h with
  | known hf => exact ⟨s, [], [], [], [], transfer_none _ hs⟩
  | exceptional hf hex =>
    exact ⟨_, [], [], [], [], transfer_socket _ c (Recorded.carried_pendingError s) rfl⟩
  | waiting hf hphase hready => exact ⟨s, [], [], [], [], transfer_none _ hs⟩
  | refused hf hphase he =>
    exact ⟨_, [], [], [], [], transfer_socket _ c (Recorded.carried_pendingError s) rfl⟩
  | opened hf hphase he =>
    exact ⟨_, [], [], [], [], transfer_opened hphase (Recorded.carried_pendingError s) rfl⟩
  | unsent hf hphase hsent =>
    obtain ⟨s', requests, messages, -, h⟩ := transfer_flushIf ready hs hphase
    rw [hsent] at h
    exact ⟨s', [], requests, messages, [], h⟩
  | sent hf hphase hsent hready =>
    obtain ⟨s', requests, messages, -, h⟩ := transfer_flushIf ready hs hphase
    rw [hsent] at h
    exact ⟨s', [], requests, messages, [], h⟩
  | read hf hphase hsent hready =>
    obtain ⟨s', requests, messages, hsame, h⟩ := transfer_flushIf ready hs hphase
    rw [hsent] at h
    obtain ⟨s'', taken, replies, h'⟩ := transfer_absorb h.socket (by rwa [hsame])
    exact ⟨s'', taken, requests, messages, replies, h.trans hsame h'⟩

end Connection

end LineTunnel
