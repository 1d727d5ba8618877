import LineTunnel.Proofs.Connection.Simulation

/-! The fields of a connection agree with each other for life, although each is written on its own
and by many operations: none of them, and no failure half-way, leaves one behind. -/

namespace LineTunnel.Connection

variable {σ : Type}

structure Fields.Coherent (s : Fields σ) : Prop where
  inbound : s.inbound.length ≤ s.inbound.capacity ∧ s.inbound.capacity ≤ s.inbound.ceiling ∧
    s.inbound.ceiling = 32768
  outbound : s.outbound.length ≤ s.outbound.capacity ∧ s.outbound.capacity ≤ s.outbound.ceiling ∧
    s.outbound.ceiling = 65536
  handshake : s.handshake.length ≤ s.handshake.capacity ∧
    s.handshake.capacity ≤ s.handshake.ceiling ∧ s.handshake.ceiling = 65536
  connecting : s.connecting = true ↔ s.isActive = true ∧ s.status = .preConnect
  negotiating : s.status = .negotiating → s.server.isSome = true ∧ s.negotiation.isSome = true
  connected : s.status = .connected → s.negotiation = none
  failed : s.isActive = true → s.failure.isSome = true → s.status = .negotiating
  awaiting : s.awaitingCredentials = true → ∃ server negotiation stage, s.server = some server ∧
    server.version = .v5 ∧ s.negotiation = some negotiation ∧ negotiation.stage = .v5 stage
  closed : s.isActive = false → s.watch = .none

theorem length_le_capacity (q : ByteQueue) : q.length ≤ q.capacity := Nat.le_add_right ..

theorem Sound.coherent {c : Connection σ} (h : c.Sound) : c.fields.Coherent where
  inbound := ⟨length_le_capacity _, h.inbound.ceiling_eq ▸ h.inbound.capacity_le,
    h.inbound.ceiling_eq⟩
  outbound := ⟨length_le_capacity _, h.outbound.ceiling_eq ▸ h.outbound.capacity_le,
    h.outbound.ceiling_eq⟩
  handshake := ⟨length_le_capacity _, h.handshake.ceiling_eq ▸ h.handshake.capacity_le,
    h.handshake.ceiling_eq⟩
  connecting := by
    change (c.isActive && c.phase.status == .preConnect) = true ↔ _
    rw [Bool.and_eq_true, beq_iff_eq]
    rfl
  negotiating hstatus := by
    cases hphase : c.phase with
    | negotiating n =>
      obtain ⟨server, hserver, -⟩ := h.proxied n (by rw [hphase]; rfl)
      unfold fields
      rw [hserver, hphase]
      exact ⟨rfl, rfl⟩
    | unconnected | connected =>
      unfold fields at hstatus
      rw [hphase] at hstatus
      cases hstatus
  connected hstatus := by
    unfold fields
    rw [(fields_status c).1 hstatus]
    rfl
  failed hactive hfailure := by
    obtain ⟨n, hphase⟩ := h.failed hactive (Option.isSome_iff_ne_none.1 hfailure)
    unfold fields
    rw [hphase]
    rfl
  awaiting hawaiting := by
    obtain ⟨n, hn, hasked⟩ := (Option.any_eq_true _ _).1 hawaiting
    obtain ⟨server, hserver, hsuits⟩ := h.proxied n hn
    have hversion := hsuits.version_eq_v5 hasked
    cases hstage : n.stage with
    | v4 => exact nomatch (hsuits.version.symm.trans (congrArg _ hstage)).symm.trans hversion
    | v5 stage => exact ⟨server, n, stage, hserver, hversion, hn, hstage⟩
  closed hactive := by
    rw [fields_watch]
    exact watch_of_closed hactive

/-- Whatever is done to a connection, the fields that are stored agree, and the connection that runs
is the stored one: the same answers, the same fields and the same notices. -/
theorem coherent_history [Transport σ] (framing : Framing) (server : Option Socks.Server)
    (ops : List (Operation σ)) :
    ((Fields.create framing server : Fields σ).history ops).2.1.Coherent ∧
      (Fields.create framing server : Fields σ).history ops =
        ((create framing server).history ops).stored := by
  have hsound : (create framing server : Connection σ).Sound := sound_create framing server
  have hstored := fields_history hsound ops
  rw [fields_create] at hstored
  refine ⟨?_, hstored⟩
  rw [hstored]
  change ((create framing server).history ops).after.fields.Coherent
  rw [after_history]
  exact (hsound.after ops).coherent

end LineTunnel.Connection
