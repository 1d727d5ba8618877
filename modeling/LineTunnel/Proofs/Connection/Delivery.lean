import LineTunnel.Proofs.Connection.Receiving
import LineTunnel.Proofs.Connection.Sending
import LineTunnel.Proofs.Connection.Start
import LineTunnel.Transport.Script

/-! Two connections whose sockets are the ends of one link. What one of them queues the other hands
out: the same messages, in the same order, as far as they have come. -/

namespace LineTunnel

theorem Framing.stream_congr {f g : Framing} (h : f.terminator = g.terminator) :
    f.stream = g.stream := by
  funext messages
  unfold stream encode
  rw [h]

structure Pair (σ τ : Type) where
  sender : Run σ
  receiver : Run τ

namespace Pair

variable {σ τ : Type}

structure Joined (p : Pair σ τ) : Prop where
  senderTied : p.sender.Tied
  senderConnected : p.sender.connection.phase = .connected
  senderLog : p.sender.log = []
  outbound : p.sender.connection.outbound.bytes = []
  accepted : p.sender.socket.accepted = []
  receiverTied : p.receiver.Tied
  receiverConnected : p.receiver.connection.phase = .connected
  receiverLog : p.receiver.log = []
  inbound : p.receiver.connection.inbound.bytes = []
  taken : p.receiver.socket.taken = []
  terminator : p.sender.connection.framing.terminator = p.receiver.connection.framing.terminator

/-- Moves of both ends in any order. The link may hold bytes back and cut them anywhere, but what
the receiver has taken from it is always a beginning of what it has accepted from the sender. -/
inductive Reaches [Transport σ] [Transport τ] (p : Pair σ τ) : Pair σ τ → Prop
  | refl : Reaches p p
  | send {q : Pair σ τ} (m : Move σ) : Reaches p q →
      Reaches p { q with sender := q.sender.step m }
  | receive {q : Pair σ τ} (m : Move τ) : Reaches p q → (∀ n, m ≠ .take n) →
      (q.receiver.step m).socket.taken <+: q.sender.socket.accepted →
      Reaches p { q with receiver := q.receiver.step m }

structure Carrying (f g : Framing) (p : Pair σ τ) : Prop where
  sender : p.sender.Emits f []
  link : p.receiver.socket.taken <+: p.sender.socket.accepted
  receiver : p.receiver.Forwards g []
  untaken : ∀ bs, .handedOut bs ∉ p.receiver.log

theorem Joined.carrying {p : Pair σ τ} (h : p.Joined) :
    p.Carrying p.sender.connection.framing p.receiver.connection.framing where
  sender := {
    tied := h.senderTied
    framing := rfl
    connected := h.senderConnected
    sent := by
      rw [h.accepted, h.outbound, h.senderLog]
      rfl }
  link := by
    rw [h.taken]
    exact List.nil_prefix
  receiver := {
    tied := h.receiverTied
    framing := rfl
    connected := h.receiverConnected
    taken := by
      rw [h.taken, h.receiverLog, h.inbound]
      rfl
    cut := by
      rw [h.receiverLog]
      exact nofun }
  untaken := by
    rw [h.receiverLog]
    exact nofun

theorem joined_adopt (s : σ) (s' : τ) {c : Connection (Recorded σ)} {c' : Connection (Recorded τ)}
    (h : c.framing.terminator = c'.framing.terminator) :
    Joined ⟨.adopt s c, .adopt s' c'⟩ := by
  obtain ⟨watcher, told, hadopt⟩ := c.adopt_eq { stream := s }
  obtain ⟨watcher', told', hadopt'⟩ := c'.adopt_eq { stream := s' }
  unfold Run.adopt
  rw [hadopt, hadopt']
  exact ⟨fun _ hs => Option.some.inj hs, rfl, rfl, rfl, rfl,
    fun _ hs => Option.some.inj hs, rfl, rfl, rfl, rfl, h⟩

variable {f g : Framing} {p q : Pair σ τ}

theorem Carrying.returned (h : q.Carrying f g) (hterminator : f.terminator = g.terminator)
    (hclean : ∀ m ∈ q.sender.log.accepted, g.Clean m) :
    q.receiver.log.returned <+: q.sender.log.accepted ∧
      (q.sender.connection.outbound.bytes = [] →
        q.receiver.socket.taken = q.sender.socket.accepted →
        q.receiver.connection.inbound.bytes = [] →
        q.receiver.log.returned = q.sender.log.accepted) := by
  obtain ⟨bodies, houtput, hreturned, hbodies⟩ := h.receiver.cut.exists_bodies h.untaken
  have hsent := h.sender.sent
  have htaken := h.receiver.taken
  rw [List.nil_append, Framing.stream_congr hterminator] at hsent
  rw [List.nil_append, houtput] at htaken
  have hterminators : ∀ m ∈ q.sender.log.accepted, g.terminator ∉ m :=
    fun m hm => (hclean m hm).terminator
  -- both lists are trimmed from messages that one stream is made of
  have htrim := Framing.map_trim_eq hclean
  rw [hreturned, ← htrim]
  constructor
  · have hstream : g.stream bodies ++ q.receiver.connection.inbound.bytes <+:
        g.stream q.sender.log.accepted := by
      rw [← htaken, ← hsent]
      exact h.link.trans (List.prefix_append ..)
    exact (Framing.prefix_of_stream hbodies hterminators hstream).map g.trim
  · intro hout hlink hin
    rw [hin, List.append_nil] at htaken
    rw [hout, List.append_nil] at hsent
    have hstream : g.stream bodies = g.stream q.sender.log.accepted := by
      rw [← htaken, hlink, hsent]
    rw [Framing.stream_injective hbodies hterminators hstream]

theorem Carrying.send [Transport σ] (h : q.Carrying f g) (m : Move σ) :
    Carrying f g { q with sender := q.sender.step m } := by
  obtain ⟨events, taken, requests, messages, replies, hc⟩ := Run.change_step h.sender.tied m
  refine { h with sender := h.sender.change hc, link := ?_ }
  refine h.link.trans ?_
  change _ <+: (q.sender.step m).socket.accepted
  rw [hc.carried.accepted]
  exact List.prefix_append ..

theorem Carrying.receive [Transport τ] (h : q.Carrying f g) {m : Move τ} (hm : ∀ n, m ≠ .take n)
    (hlink : (q.receiver.step m).socket.taken <+: q.sender.socket.accepted) :
    Carrying f g { q with receiver := q.receiver.step m } := by
  obtain ⟨events, taken, requests, messages, replies, hc⟩ := Run.change_step h.receiver.tied m
  refine { h with link := hlink, receiver := h.receiver.change hc, untaken := ?_ }
  intro bs hmem
  change .handedOut bs ∈ (q.receiver.step m).log at hmem
  rw [hc.log] at hmem
  rcases List.mem_append.1 hmem with hold | hnew
  · exact h.untaken bs hold
  · obtain ⟨n, hn⟩ := hc.handedOut bs hnew
    exact hm n hn

variable [Transport σ] [Transport τ]

theorem Carrying.reaches (h : p.Carrying f g) (hreaches : p.Reaches q) : q.Carrying f g := by
  induction hreaches with
  | refl => exact h
  | send m _ ih => exact ih.send m
  | receive m _ hm hlink ih => exact ih.receive hm hlink

/-- Whatever is done at both ends and however the link cuts the stream, the messages handed out
are the first of those that were accepted to be sent. Once nothing is left in the sender's queue,
in the link and in the receiver's queue, they are all of them. -/
theorem returned_of_joined (hp : p.Joined) (hreaches : p.Reaches q)
    (hclean : ∀ m ∈ q.sender.log.accepted, p.receiver.connection.framing.Clean m) :
    q.receiver.log.returned <+: q.sender.log.accepted ∧
      (q.sender.connection.outbound.bytes = [] →
        q.receiver.socket.taken = q.sender.socket.accepted →
        q.receiver.connection.inbound.bytes = [] →
        q.receiver.log.returned = q.sender.log.accepted) :=
  (hp.carrying.reaches hreaches).returned hp.terminator hclean

theorem returned_of_joined_in_pieces :
    let c : Connection (Recorded Script) := .create ⟨10, some 13⟩ none
    let p : Pair Script Script := ⟨.adopt { writes := [.accept 2, .accept 5] } c,
      .adopt { reads := [.data [97], .data [98, 10]] } c⟩
    ∃ q, p.Joined ∧ p.Reaches q ∧ (∀ m ∈ q.sender.log.accepted, c.framing.Clean m) ∧
      q.receiver.log.returned = [[97, 98]] ∧
      q.receiver.log.returned <+: q.sender.log.accepted ∧
      (q.sender.connection.outbound.bytes = [] →
        q.receiver.socket.taken = q.sender.socket.accepted →
        q.receiver.connection.inbound.bytes = [] →
        q.receiver.log.returned = q.sender.log.accepted) := by
  intro c p
  have hjoined : p.Joined := joined_adopt _ _ rfl
  have hqueued := Reaches.send (.queue [97, 98]) (Reaches.refl (p := p))
  have hsent := hqueued.send (.service .writing)
  have hread := hsent.receive (.service .reading) nofun (by decide +kernel)
  have hreturned := hread.receive .next nofun (by decide +kernel)
  have hclean : ∀ m ∈ [[97, 98]], c.framing.Clean m := by
    intro m hm
    cases List.mem_singleton.1 hm
    exact ⟨by decide, by decide⟩
  exact ⟨_, hjoined, hreturned, hclean, by decide +kernel,
    returned_of_joined hjoined hreturned hclean⟩

end Pair

end LineTunnel
