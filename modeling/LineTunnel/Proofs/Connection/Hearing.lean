import LineTunnel.Proofs.Connection.Work
import LineTunnel.Proofs.Socks.Reaction
import LineTunnel.Proofs.Transport.Holding

/-! What a connection makes of the bytes that its proxy says: it stands where these bytes lead a
negotiation, be it that it waits for more, that the tunnel is granted, or that it was closed upon a
refusal. Sending changes nothing in that. -/

namespace LineTunnel.Connection

open Socks (Negotiation Standing)

variable {σ : Type}

def Stands (c : Connection σ) : Standing → Prop
  | .waiting n rest => c.isActive = true ∧ c.failure = none ∧ c.phase = .negotiating n ∧
    c.inbound.bytes = rest
  | .prompting _ => False
  | .granted rest => c.isActive = true ∧ c.failure = none ∧ c.phase = .connected ∧
    c.inbound.bytes = rest
  | .refused f => c.isActive = false ∧ c.failure = some f

variable {c : Connection σ} {s : σ} {n : Negotiation} {bs : Bytes} {standing : Standing}

theorem exists_socket (h : c.isActive = true) : ∃ s, c.socket = some s :=
  Option.isSome_iff_exists.1 h

theorem Stands.congr {c' : Connection σ} (h : c.Stands standing)
    (hactive : c'.isActive = c.isActive) (hfailure : c'.failure = c.failure)
    (hphase : c'.phase = c.phase) (hinbound : c'.inbound = c.inbound) : c'.Stands standing := by
  cases standing with
  | waiting n rest =>
    obtain ⟨hopen, hnone, hn, hrest⟩ := h
    exact ⟨hactive.trans hopen, hfailure.trans hnone, hphase.trans hn, by rw [hinbound, hrest]⟩
  | prompting rest => exact h
  | granted rest =>
    obtain ⟨hopen, hnone, hconnected, hrest⟩ := h
    exact ⟨hactive.trans hopen, hfailure.trans hnone, hphase.trans hconnected,
      by rw [hinbound, hrest]⟩
  | refused f => exact ⟨hactive.trans h.1, hfailure.trans h.2⟩

theorem stands_settle {waiting : Bool} {told : List (Notice σ)} (htold : closedSockets told = [])
    (h : c.Stands standing) : (c.finish (.ok ()) waiting told).after.Stands standing := by
  obtain ⟨watcher, told', -, hsettle⟩ := c.settle_eq waiting htold
  change (c.settle waiting told).after.Stands standing
  rw [hsettle]
  exact h.congr rfl rfl rfl rfl

theorem stands_fail {f : Failure} {waiting : Bool} {told : List (Notice σ)}
    (htold : closedSockets told = []) :
    (c.finish (.error f) waiting told).after.Stands (.refused f) := by
  obtain ⟨watcher, told', -, hfail⟩ := c.fail_eq f waiting htold
  change (c.fail f waiting told).after.Stands (.refused f)
  rw [hfail]
  exact ⟨rfl, rfl⟩

variable [Transport σ]

theorem service_reading (hs : c.socket = some s) (hf : c.failure = none)
    (hphase : c.phase.isOpened = true) :
    ∃ waiting told, closedSockets told = [] ∧
      c.service .reading = c.absorb.2.finish c.absorb.1 waiting told := by
  obtain ⟨result, c', waiting, told, hwork, hquiet, hservice⟩ := service_work hs .reading
  cases hwork with
  | known hknown => exact nomatch hf.symm.trans hknown
  | exceptional _ hready => cases hready
  | waiting _ hunopened _ | refused _ hunopened _ | opened _ hunopened _ =>
    rw [hunopened] at hphase
    cases hphase
  | unsent _ _ hsent => cases hsent
  | sent _ _ _ hready => cases hready
  | read => exact ⟨waiting, told, hquiet, hservice⟩

theorem service_writing (hs : c.socket = some s) (hf : c.failure = none)
    (hphase : c.phase.isOpened = true) (hwell : (c.service .writing).answer.failure = none) :
    ∃ waiting told, closedSockets told = [] ∧
      c.service .writing = (c.flushIf .writing).2.finish (.ok ()) waiting told := by
  obtain ⟨result, c', waiting, told, hwork, hquiet, hservice⟩ := service_work hs .writing
  cases hwork with
  | known hknown => exact nomatch hf.symm.trans hknown
  | exceptional _ hready => cases hready
  | waiting _ hunopened _ | refused _ hunopened _ | opened _ hunopened _ =>
    rw [hunopened] at hphase
    cases hphase
  | @unsent f _ _ hsent =>
    obtain ⟨watcher, told', -, hfail⟩ := (c.flushIf .writing).2.fail_eq f waiting hquiet
    rw [hservice] at hwell
    change ((c.flushIf .writing).2.fail f waiting told).answer.failure = none at hwell
    rw [hfail] at hwell
    cases hwell
  | sent => exact ⟨waiting, told, hquiet, hservice⟩
  | read _ _ _ hready => cases hready

theorem fill_of_holds (hs : c.socket = some s) (h : Transport.Holds s bs)
    (hroom : c.inbound.length + bs.length < c.inbound.ceiling) :
    ∃ socket inbound, inbound.bytes = c.inbound.bytes ++ bs ∧
      c.fill = (.ok (), { c with socket := some socket, inbound }) := by
  obtain ⟨hok, hbytes⟩ := Transport.fill_of_holds h hroom
  refine ⟨(Transport.fill s c.inbound).2.1, (Transport.fill s c.inbound).2.2, hbytes, ?_⟩
  rw [fill_open hs, hok]

theorem stands_read_of_negotiating (hs : c.socket = some s) (hf : c.failure = none)
    (hphase : c.phase = .negotiating n) (h : Transport.Holds s bs)
    (hroom : c.inbound.length + bs.length < c.inbound.ceiling)
    (hrequest : (Socks.Exchange.mk n c.inbound c.handshake).HasRoom)
    (hprompt : ∀ rest, n.hear c.prompter.isSome (c.inbound.bytes ++ bs) ≠ .prompting rest) :
    (c.service .reading).after.Stands (n.hear c.prompter.isSome (c.inbound.bytes ++ bs)) := by
  obtain ⟨waiting, told, hquiet, hservice⟩ := service_reading hs hf (by rw [hphase]; rfl)
  obtain ⟨socket, inbound, hbytes, hfill⟩ := fill_of_holds hs h hroom
  obtain ⟨p, x, told', -, hadvance, heq⟩ :=
    advance_negotiating (c := { c with socket := some socket, inbound }) hphase
  have hstanding : Socks.Exchange.standing (p, x) =
      n.hear c.prompter.isSome inbound.bytes := by
    rw [← hadvance]
    exact Socks.Exchange.standing_advance hrequest
  rw [hservice, absorb_eq hfill heq, ← hbytes]
  rw [← hbytes] at hprompt
  cases p with
  | error f =>
    rw [show n.hear c.prompter.isSome inbound.bytes = .refused f from hstanding.symm]
    exact stands_fail hquiet
  | ok progress =>
    cases progress with
    | needMore =>
      rw [show n.hear c.prompter.isSome inbound.bytes = .waiting x.negotiation x.inbound.bytes from
        hstanding.symm]
      exact stands_settle hquiet ⟨rfl, hf, rfl, rfl⟩
    | connected =>
      rw [show n.hear c.prompter.isSome inbound.bytes = .granted x.inbound.bytes from
        hstanding.symm]
      exact stands_settle hquiet ⟨rfl, hf, rfl, rfl⟩
    | credentialsRequested => exact absurd hstanding.symm (hprompt _)

theorem Stands.read (h : c.Stands standing) (hholds : ∀ s, c.socket = some s → Transport.Holds s bs)
    (hroom : c.isActive = true → c.inbound.length + bs.length < c.inbound.ceiling)
    (hrequest : c.isActive = true → ∀ n, c.phase = .negotiating n →
      (Socks.Exchange.mk n c.inbound c.handshake).HasRoom)
    (hprompt : ∀ rest, standing.hear c.prompter.isSome bs ≠ .prompting rest) :
    (c.service .reading).after.Stands (standing.hear c.prompter.isSome bs) := by
  cases standing with
  | waiting n rest =>
    obtain ⟨hactive, hf, hphase, rfl⟩ := h
    obtain ⟨s, hs⟩ := exists_socket hactive
    exact stands_read_of_negotiating hs hf hphase (hholds s hs) (hroom hactive)
      (hrequest hactive n hphase) hprompt
  | prompting rest => exact h.elim
  | granted rest =>
    obtain ⟨hactive, hf, hphase, rfl⟩ := h
    obtain ⟨s, hs⟩ := exists_socket hactive
    obtain ⟨waiting, told, hquiet, hservice⟩ := service_reading hs hf (by rw [hphase]; rfl)
    obtain ⟨socket, inbound, hbytes, hfill⟩ := fill_of_holds hs (hholds s hs) (hroom hactive)
    rw [hservice, absorb_eq hfill (advance_otherwise (by simp [hphase]))]
    exact stands_settle hquiet ⟨rfl, hf, hphase, hbytes⟩
  | refused f =>
    rw [service_of_inactive h.1]
    exact h

theorem Stands.write (h : c.Stands standing) (hwell : (c.service .writing).answer.failure = none) :
    (c.service .writing).after.Stands standing := by
  obtain ⟨socket, outbound, handshake, hsocket, hflush⟩ := c.flushIf_eq .writing
  have hopen (hactive : c.isActive = true) (hf : c.failure = none)
      (hphase : c.phase.isOpened = true) : (c.service .writing).after.Stands standing := by
    obtain ⟨s, hs⟩ := exists_socket hactive
    obtain ⟨waiting, told, hquiet, hservice⟩ := service_writing hs hf hphase hwell
    rw [hservice, hflush]
    exact stands_settle hquiet (h.congr hsocket rfl rfl rfl)
  cases standing with
  | waiting n rest => exact hopen h.1 h.2.1 (by rw [h.2.2.1]; rfl)
  | prompting rest => exact h.elim
  | granted rest => exact hopen h.1 h.2.1 (by rw [h.2.2.1]; rfl)
  | refused f =>
    rw [service_of_inactive h.1]
    exact h

end LineTunnel.Connection
