import LineTunnel.Connection.Connect
import LineTunnel.Proofs.Connection.Work
import LineTunnel.Proofs.Transport.Holding

/-! A service call of a connected connection that reads. All that the socket holds is put behind
what is buffered already, in whatever pieces it is read. But room for one byte more is reserved
before it is known that there is one, so that the connection fails as full when the bytes only just
fit. -/

namespace LineTunnel

variable {σ : Type}

namespace Connection

theorem answer_finish (c : Connection σ) (result : Except Failure Unit) (waiting : Bool)
    (told : List (Notice σ)) : (c.finish result waiting told).answer.failure =
      match result with
      | .ok () => none
      | .error f => some f := by
  cases result <;> rfl

variable [Transport σ]

theorem receive_of_connected {c : Connection σ} (hconnected : c.phase = .connected) :
    c.receive = c.fill.2.finish c.fill.1 (!c.fill.2.inbound.isEmpty) [] := by
  obtain ⟨socket, inbound, -, hfill⟩ := c.fill_eq
  have hphase : c.fill.2.phase = .connected := by
    rw [hfill]
    exact hconnected
  have hadvance : c.fill.2.advance = (.ok (), c.fill.2, []) := advance_otherwise (by simp [hphase])
  rw [receive_of_advance (show c.fill = (c.fill.1, c.fill.2) from rfl) hadvance, isConnected,
    hphase]
  rfl

/-- All of these bytes are put behind what was buffered, and the buffer is not found full. -/
def TakesAll (c : Connection σ) (ready : Readiness) (bs : Bytes) : Prop :=
  (c.service ready).answer.failure ≠ some (.link .bufferFull) ∧
    (c.service ready).after.inbound.bytes = c.inbound.bytes ++ bs

variable {c : Connection σ} {s : σ} {ready : Readiness} {bs : Bytes}

theorem receive_of_holds (hs : c.socket = some s) (hconnected : c.phase = .connected)
    (hfits : c.inbound.Fits ByteQueue.readCeiling) (hholds : Transport.Holds s bs)
    (hle : c.inbound.length + bs.length ≤ ByteQueue.readCeiling) :
    c.receive.answer.failure =
        (if c.inbound.length + bs.length < ByteQueue.readCeiling then none
          else some (.link .bufferFull)) ∧
      c.receive.after.inbound.bytes = c.inbound.bytes ++ bs := by
  obtain ⟨hresult, hbytes⟩ := Transport.fill_of_gives hholds.gives c.inbound
  rw [hfits.room_eq] at hresult hbytes
  rw [List.take_of_length_le (by omega)] at hbytes
  obtain ⟨socket, failure, watcher, hafter⟩ := c.fill.2.finish_eq c.fill.1
    (!c.fill.2.inbound.isEmpty) closedSockets_nil
  rw [receive_of_connected hconnected, answer_finish, hafter, fill_open hs]
  refine ⟨?_, hbytes⟩
  rw [hresult]
  by_cases hlt : c.inbound.length + bs.length < ByteQueue.readCeiling
  · rw [if_pos (by omega), if_pos hlt]
    rfl
  · rw [if_neg (by omega), if_neg hlt]

theorem service_of_holds (hf : c.failure = none) (hconnected : c.phase = .connected)
    (hfits : c.inbound.Fits ByteQueue.readCeiling) (hex : ready.exceptional = false)
    (hready : ready.readable = true) (hsent : (c.flushIf ready).1 = .ok ())
    (hs : (c.flushIf ready).2.socket = some s) (hholds : Transport.Holds s bs)
    (hle : c.inbound.length + bs.length ≤ ByteQueue.readCeiling) :
    (c.service ready).answer.failure =
        (if c.inbound.length + bs.length < ByteQueue.readCeiling then none
          else some (.link .bufferFull)) ∧
      (c.service ready).after.inbound.bytes = c.inbound.bytes ++ bs := by
  obtain ⟨socket, outbound, handshake, hactive, hflush⟩ := c.flushIf_eq ready
  rw [hflush] at hs
  obtain ⟨before, hbefore⟩ : ∃ before, c.socket = some before :=
    Option.isSome_iff_exists.1 (hactive.symm.trans (Option.isSome_of_eq_some hs))
  rw [service_of_sent hbefore hf (by rw [hconnected]; rfl) hex hsent hready, hflush]
  exact receive_of_holds hs hconnected hfits hholds hle

/-- All that the socket holds is taken if it does not exceed the ceiling, but without a failure only
if there is room for one byte more. What is to be sent first, if anything is, has to go well. -/
theorem takesAll_iff (hf : c.failure = none) (hconnected : c.phase = .connected)
    (hfits : c.inbound.Fits ByteQueue.readCeiling) (hex : ready.exceptional = false)
    (hready : ready.readable = true) (hsent : (c.flushIf ready).1 = .ok ())
    (hs : (c.flushIf ready).2.socket = some s) (hholds : Transport.Holds s bs)
    (hle : c.inbound.length + bs.length ≤ ByteQueue.readCeiling) :
    (c.TakesAll ready bs ↔ c.inbound.length + bs.length < ByteQueue.readCeiling) ∧
      (c.service ready).after.inbound.bytes = c.inbound.bytes ++ bs := by
  obtain ⟨hfailure, hbytes⟩ :=
    service_of_holds hf hconnected hfits hex hready hsent hs hholds hle
  refine ⟨?_, hbytes⟩
  unfold TakesAll
  rw [hfailure]
  by_cases hlt : c.inbound.length + bs.length < ByteQueue.readCeiling
  · rw [if_pos hlt]
    exact ⟨fun _ => hlt, fun _ => ⟨nofun, hbytes⟩⟩
  · rw [if_neg hlt]
    exact ⟨fun h => absurd rfl h.1, fun h => absurd h hlt⟩

theorem takesAll_in_pieces :
    let script : Script := {
      reads := [.data [97], .fail .interrupted, .data [98, 10]]
      writes := [.accept 1] }
    let unused : Connection Script := .create ⟨10, none⟩ none
    let c := { unused with
      socket := some script
      phase := .connected
      inbound := ⟨[120], [], ByteQueue.readCeiling⟩
      outbound := ⟨[104, 10], [], ByteQueue.writeCeiling⟩ }
    let both : Readiness := { readable := true, writable := true }
    c.TakesAll both [97, 98, 10] ∧ (c.service both).after.inbound.bytes = [120, 97, 98, 10] ∧
      (c.service both).after.outbound.bytes = [10] := by
  intro script unused c both
  have hsent : (c.flushIf both).1 = .ok () := by cbv
  have hs : (c.flushIf both).2.socket = some { script with writes := [] } := by decide +kernel
  have hgives :
      Transport.Gives { script with writes := [] } ([97] ++ ([98, 10] ++ [])) .blocked := by
    refine Script.gives_data (by decide) rfl fun _ hs' => ?_
    refine Script.gives_interrupted hs' fun _ hs'' => ?_
    exact Script.gives_data (by decide) hs'' fun _ => Script.gives_blocked
  have hfits : c.inbound.Fits ByteQueue.readCeiling := ⟨rfl, by decide⟩
  obtain ⟨htakes, hbytes⟩ :=
    takesAll_iff (c := c) rfl rfl hfits rfl rfl hsent hs (hgives.holds rfl) (by decide)
  exact ⟨htakes.2 (by decide), hbytes, by decide +kernel⟩

/-- The peer sends as many bytes as the ceiling allows, and then nothing. -/
theorem not_takesAll_of_ceiling :
    let bs : Bytes := List.replicate ByteQueue.readCeiling 97
    let script : Script := Script.saying bs {}
    let c : Connection Script := ((create ⟨10, none⟩ none).adopt script).after
    c.socket = some script ∧ c.phase = .connected ∧ c.failure = none ∧
      Transport.Holds script bs ∧ c.inbound.length + bs.length ≤ ByteQueue.readCeiling ∧
      ¬c.TakesAll .reading bs := by
  intro bs script c
  have hlength : bs.length = ByteQueue.readCeiling := List.length_replicate
  have hsum : c.inbound.length + bs.length = ByteQueue.readCeiling := by
    rw [hlength]
    exact Nat.zero_add _
  have hholds : Transport.Holds script bs :=
    Script.holds_saying (List.ne_nil_of_length_pos (by rw [hlength]; decide))
  have hfailure : (c.service .reading).answer.failure =
      if c.inbound.length + bs.length < ByteQueue.readCeiling then none
        else some (.link .bufferFull) :=
    (service_of_holds rfl rfl (ByteQueue.fits_empty _) rfl rfl rfl rfl hholds (Nat.le_of_eq hsum)).1
  refine ⟨rfl, rfl, rfl, hholds, Nat.le_of_eq hsum, fun h => h.1 ?_⟩
  rw [hfailure, hsum]
  exact if_neg (Nat.lt_irrefl _)

end Connection

end LineTunnel
