import LineTunnel.Proofs.Connection.Sound
import LineTunnel.Proofs.Connection.Reading
import LineTunnel.Proofs.Polling.Places
import LineTunnel.Proofs.Transport.Giving
import LineTunnel.Transport.Link

/-! What is still heard from a peer that has left. What it sent before it left waits in the link and
should be read, whatever the connection itself has to say. But a poll flushes before it reads, and
to a peer that has left nothing can be written: with something unsent, the connection ends at the
write, and nothing is read. -/

namespace LineTunnel

namespace Link

structure Left (l : Link) : Prop where
  finished : l.finished = true
  broken : l.broken = true
  error : l.error = none

variable {l : Link}

theorem Left.read (h : l.Left) (n : Nat) : Transport.read l n =
    (.ok (l.inbox.take n), { l with inbox := l.inbox.drop n }) := by
  change Link.read l n = _
  obtain ⟨inbox, outbox, finished, broken, error, peer⟩ := l
  cases h.finished
  cases h.error
  cases inbox with
  | nil => simp [Link.read]
  | cons b bs => rfl

theorem Left.gives (h : l.Left) : Transport.Gives l l.inbox .endOfStream := by
  induction hlength : l.inbox.length using Nat.strongRecOn generalizing l with
  | ind length ih =>
    refine .intro (fun _ hr => ?_) (fun hn hr hgot => ?_) (fun _ hr => ?_) (fun _ hr => ?_)
      fun _ hr => ?_
    all_goals cases (h.read _).symm.trans hr
    · next n hn =>
      refine ⟨List.take_prefix .., fun hnone => ⟨?_, rfl⟩⟩
      exact (List.take_eq_nil_iff.1 hnone).resolve_left (by omega)
    · next n =>
      have hrest : l.inbox.drop (l.inbox.take n).length = l.inbox.drop n := by
        have hcut : (l.inbox.take n ++ l.inbox.drop n).drop (l.inbox.take n).length =
            l.inbox.drop n := List.drop_left
        rwa [List.take_append_drop] at hcut
      have hpos : 0 < l.inbox.length := by
        refine List.length_pos_iff.2 fun hempty => hgot ?_
        rw [hempty, List.take_nil]
      rw [hrest]
      refine ih (l.inbox.drop n).length ?_ ⟨h.finished, h.broken, h.error⟩ rfl
      rw [List.length_drop]
      omega

theorem Left.fill (h : l.Left) {q : ByteQueue} (hroom : q.length + l.inbox.length < q.ceiling) :
    (Transport.fill l q).1 = .error (.link .closedByPeer) ∧
      (Transport.fill l q).2.2.bytes = q.bytes ++ l.inbox :=
  Transport.fill_of_gives_of_lt h.gives hroom

theorem Left.send (h : l.Left) {bs : Bytes} (hbs : bs ≠ []) :
    Transport.send l bs = (.error (.os 32), l, 0) := by
  have hwrite : Transport.write l bs = (.error (.errno 32), l) := if_pos h.broken
  unfold Transport.send
  rw [if_neg hbs]
  split
  · next heq => cases hwrite.symm.trans heq
  · next heq => cases hwrite.symm.trans heq
  · next heq =>
    cases hwrite.symm.trans heq
    rfl

theorem Left.poll (h : l.Left) (writable : Bool) :
    let seen := Pollable.poll l (.ofReadiness { readable := true, writable, exceptional := true })
    seen ≠ 0 ∧ seen.readiness = { readable := true, writable } := by
  change Link.poll l _ ≠ 0 ∧ (Link.poll l _).readiness = _
  unfold Link.poll
  rw [h.finished, h.error, Bool.or_true]
  cases writable <;> decide

end Link

namespace Connection

/-- A connected connection, to which nothing has happened yet but that its peer has left, with room
for all that the peer has sent. -/
structure LeftBy (c : Connection Link) (l : Link) : Prop where
  socket : c.socket = some l
  connected : c.phase = .connected
  failure : c.failure = none
  kept : c.overflowed = false
  left : l.Left
  room : c.inbound.length + l.inbox.length < c.inbound.ceiling

variable {c c' : Connection Link} {l : Link}

def readyOnceLeft (c : Connection Link) : Readiness :=
  { readable := true, writable := !c.outbound.isEmpty }

def heardOnceLeft (c : Connection Link) (l : Link) : Bytes :=
  if c.outbound.isEmpty then l.inbox else []

theorem LeftBy.ready (h : c.LeftBy l) : Polling.ready? c = some c.readyOnceLeft := by
  have hwatch : c.watch =
      { readable := true, writable := !c.outbound.isEmpty, exceptional := true } := by
    unfold watch isActive
    rw [h.socket, h.connected, h.failure, h.kept]
    simp
  have hrequest : Polling.request? c = some (l, .ofReadiness c.watch) := by
    unfold Polling.request? interest
    rw [h.socket, hwatch]
    rfl
  have hcalm : Polling.isUrgent c = false := by
    unfold Polling.isUrgent
    rw [h.failure, Option.isSome_none, Bool.and_false]
  obtain ⟨hseen, hready⟩ := h.left.poll (!c.outbound.isEmpty)
  unfold Polling.ready? Polling.seen
  rw [hcalm, hrequest, hwatch]
  exact (if_neg hseen).trans (congrArg some hready)

theorem LeftBy.work (h : c.LeftBy l) {result : Except Failure Unit}
    (hw : Work c.readyOnceLeft c l result c') : (∃ f, result = .error f) ∧
      c'.phase = .connected ∧ c'.framing = c.framing ∧
      c'.inbound.bytes = c.inbound.bytes ++ c.heardOnceLeft l := by
  have hflush : c.outbound.isEmpty = true → c.flushIf c.readyOnceLeft = (.ok (), c) := by
    intro hempty
    unfold flushIf readyOnceLeft
    rw [hempty]
    rfl
  have hunsent : c.outbound.isEmpty = false → c.flushIf c.readyOnceLeft =
      (.error (.os 32), { c with outbound := c.outbound.discard 0 }) := by
    intro hleft
    have hbytes : c.outbound.bytes ≠ [] := by simpa [ByteQueue.isEmpty] using hleft
    unfold flushIf readyOnceLeft flush
    rw [hleft, h.connected, h.kept, h.socket]
    unfold Transport.drain
    simp only [h.left.send hbytes, Bool.not_false, if_true, Bool.false_eq_true, if_false,
      ← h.socket]
  cases hw with
  | known hf => exact nomatch h.failure.symm.trans hf
  | exceptional hf hex => cases hex
  | waiting hf hphase | refused hf hphase | opened hf hphase =>
    exact nomatch h.connected.symm.trans hphase
  | sent hf hphase hsent hready => cases hready
  | unsent hf hphase hsent =>
    cases hempty : c.outbound.isEmpty with
    | true =>
      rw [hflush hempty] at hsent
      cases hsent
    | false =>
      rw [hunsent hempty] at hsent ⊢
      unfold heardOnceLeft
      rw [hempty]
      exact ⟨⟨_, rfl⟩, h.connected, rfl, (List.append_nil _).symm⟩
  | read hf hphase hsent hready =>
    cases hempty : c.outbound.isEmpty with
    | false =>
      rw [hunsent hempty] at hsent
      cases hsent
    | true =>
      obtain ⟨hend, hfilled⟩ := h.left.fill h.room
      rw [hflush hempty]
      unfold absorb heardOnceLeft
      rw [fill_open h.socket, advance_otherwise (by simp [h.connected]), hempty]
      exact ⟨⟨_, hend⟩, h.connected, rfl, hfilled⟩

end Connection

namespace Polling

variable {σ : Type} [Pollable σ]

def failed? (e : Effect σ (Option Outcome)) : Option Failure := e.answer.bind (·.failure)

inductive PollsUntil : Connection σ → Failure → Connection σ → Prop
  | failed {c : Connection σ} {f : Failure} : failed? (one c) = some f →
      PollsUntil c f (one c).after
  | again {c c' : Connection σ} {f : Failure} : failed? (one c) = none →
      PollsUntil (one c).after f c' → PollsUntil c f c'

/-- When polls have come to a failure, the messages of all that was buffered and sent are there. -/
def Delivers (c : Connection σ) (sent : Bytes) : Prop :=
  ∃ f c', PollsUntil c f c' ∧ c'.nextAll = c.framing.messages (c.inbound.bytes ++ sent)

variable {c : Connection Link} {l : Link}

theorem one_of_left (h : c.LeftBy l) : (∃ f, failed? (one c) = some f) ∧
    (one c).after.nextAll = c.framing.messages (c.inbound.bytes ++ c.heardOnceLeft l) := by
  obtain ⟨result, c', waiting, told, hwork, hquiet, hservice⟩ :=
    Connection.service_work h.socket c.readyOnceLeft
  obtain ⟨⟨f, rfl⟩, hconnected, hframing, hinbound⟩ := h.work hwork
  obtain ⟨watcher, told', -, hfail⟩ := c'.fail_eq f waiting hquiet
  have hserved : c.service c.readyOnceLeft = ⟨{ dataWaiting := waiting, failure := some f },
      { c' with watcher, socket := none, failure := some f }, told'⟩ := hservice.trans hfail
  have hone : one c = serve c.readyOnceLeft c := by
    rw [one_eq, h.ready]
    rfl
  unfold serve at hone
  rw [hserved] at hone
  dsimp only at hone
  rw [hone]
  refine ⟨⟨f, rfl⟩, ?_⟩
  rw [← hframing, ← hinbound]
  exact Connection.nextAll_eq hconnected

theorem delivers_iff_heard (h : c.LeftBy l) : Delivers c l.inbox ↔
    c.framing.messages (c.inbound.bytes ++ c.heardOnceLeft l) =
      c.framing.messages (c.inbound.bytes ++ l.inbox) := by
  obtain ⟨⟨f, hfailed⟩, hheard⟩ := one_of_left h
  constructor
  · rintro ⟨f', c', hpolls, hall⟩
    cases hpolls with
    | failed hf => exact hheard.symm.trans hall
    | again hnone => exact nomatch hfailed.symm.trans hnone
  · intro hsame
    exact ⟨f, (one c).after, .failed hfailed, hheard.trans hsame⟩

/-- What a peer sent before it left is read just if nothing was unsent, or if there was no message
to lose. -/
theorem delivers_iff {framing : Framing} {server : Option Socks.Server}
    {ops : List (Operation Link)} (hc : c = (Connection.create framing server).after ops)
    (hsocket : c.socket = some l) (hconnected : c.phase = .connected)
    (hkept : c.overflowed = false) (hleft : l.Left)
    (hroom : c.inbound.length + l.inbox.length < ByteQueue.readCeiling) :
    Delivers c l.inbox ↔ c.outbound.bytes = [] ∨ c.framing.terminator ∉ l.inbox := by
  have hsound : c.Sound := hc ▸ (Connection.sound_create framing server).after ops
  have hactive := Connection.isActive_of_socket hsocket
  have hwell := hsound.failure_of_connected hactive hconnected
  have hstands : c.LeftBy l :=
    ⟨hsocket, hconnected, hwell, hkept, hleft, hsound.inbound.ceiling_eq ▸ hroom⟩
  rw [delivers_iff_heard hstands]
  unfold Connection.heardOnceLeft
  cases hempty : c.outbound.isEmpty with
  | true => exact iff_of_true rfl (.inl (List.isEmpty_iff.1 hempty))
  | false =>
    have hunsent : c.outbound.bytes ≠ [] := by simpa [ByteQueue.isEmpty] using hempty
    rw [if_neg (by decide), List.append_nil, eq_comm, Framing.messages_append_eq_iff]
    exact (or_iff_right hunsent).symm

theorem delivers_of_nothing_unsent :
    let ops : List (Operation Link) := [.adopt {},
      .turn fun l => ((l.peerSend [98, 121, 101, 10]).getD l).peerClose]
    let c := (Connection.create ⟨10, some 13⟩ none).after ops
    let l : Link := { inbox := [98, 121, 101, 10], finished := true, broken := true, peer := false }
    c.socket = some l ∧ c.phase = .connected ∧ c.overflowed = false ∧ l.Left ∧
      c.inbound.length + l.inbox.length < ByteQueue.readCeiling ∧ Delivers c l.inbox := by
  intro ops c l
  have hleft : l.Left := ⟨rfl, rfl, rfl⟩
  have hroom : c.inbound.length + l.inbox.length < ByteQueue.readCeiling := by decide
  exact ⟨rfl, rfl, rfl, hleft, hroom, (delivers_iff rfl rfl rfl rfl hleft hroom).2 (.inl rfl)⟩

/-- The same with a message queued, which was not sent: what the peer said is not read. -/
theorem not_delivers_of_unsent :
    let ops : List (Operation Link) := [.adopt {}, .queue [104, 105],
      .turn fun l => ((l.peerSend [98, 121, 101, 10]).getD l).peerClose]
    let c := (Connection.create ⟨10, some 13⟩ none).after ops
    let l : Link := { inbox := [98, 121, 101, 10], finished := true, broken := true, peer := false }
    c.socket = some l ∧ c.phase = .connected ∧ c.overflowed = false ∧ l.Left ∧
      c.inbound.length + l.inbox.length < ByteQueue.readCeiling ∧ ¬Delivers c l.inbox := by
  intro ops c l
  have hleft : l.Left := ⟨rfl, rfl, rfl⟩
  have hroom : c.inbound.length + l.inbox.length < ByteQueue.readCeiling := by decide
  refine ⟨rfl, rfl, rfl, hleft, hroom, fun hdelivers => ?_⟩
  have hsame := (delivers_iff_heard ⟨rfl, rfl, rfl, rfl, hleft, hroom⟩).1 hdelivers
  revert hsame
  decide +kernel

end Polling

end LineTunnel
