import LineTunnel.Proofs.Connection.Receiving
import LineTunnel.Proofs.Connection.Start
import LineTunnel.Proofs.Framing.Cutting
import LineTunnel.Transport.Script

/-! What the owner of a connected connection reads: the messages of the stream, as they can be read
off the whole of it, whichever pieces it comes in and whenever the owner asks. The count of those
that wait is the number of those that the owner would get. -/

namespace LineTunnel

variable {σ : Type}

theorem Log.CutBy.messages_append {f : Framing} {log : Log} (h : log.CutBy f)
    (huntaken : ∀ bs, .handedOut bs ∉ log) (rest : Bytes) :
    f.messages (log.output ++ rest) = log.returned ++ f.messages rest := by
  obtain ⟨bodies, houtput, hreturned, hbodies⟩ := h.exists_bodies huntaken
  have htrim : f.trim = f.messageOf := funext f.trim_eq_messageOf
  unfold Framing.messages
  rw [houtput, Framing.pieces_stream_append hbodies, List.map_append, hreturned, htrim]

namespace Connection

theorem length_inbound_of_next {c c' : Connection σ} {message : Bytes}
    (h : c.next = (some message, c')) : c'.inbound.length < c.inbound.length := by
  rcases c.next_cases with hnext | ⟨-, body, rest, -, hbytes, hnext⟩
  · cases hnext.symm.trans h
  · cases hnext.symm.trans h
    rw [ByteQueue.length, ByteQueue.length, ByteQueue.bytes_discard, hbytes, List.length_drop,
      List.length_append, List.length_cons]
    omega

def nextAll (c : Connection σ) : List Bytes :=
  match _h : c.next with
  | (none, _) => []
  | (some message, c') => message :: c'.nextAll
termination_by c.inbound.length
decreasing_by exact length_inbound_of_next _h

theorem notMem_of_next {c c' : Connection σ} (hconnected : c.phase = .connected)
    (h : c.next = (none, c')) : c.framing.terminator ∉ c.inbound.bytes := by
  unfold next at h
  rw [if_pos (by simp [isConnected, hconnected])] at h
  split at h
  · next hfirst => exact Framing.first?_eq_none hfirst
  · cases h

theorem nextAll_eq {c : Connection σ} (hconnected : c.phase = .connected) :
    c.nextAll = c.framing.messages c.inbound.bytes := by
  fun_induction nextAll c with
  | case1 c c' hnext =>
    unfold Framing.messages
    rw [Framing.pieces_of_notMem (notMem_of_next hconnected hnext)]
    rfl
  | case2 c message c' hnext ih =>
    rcases c.next_cases with hnone | ⟨-, body, rest, hbody, hbytes, hsome⟩
    · cases hnone.symm.trans hnext
    · cases hsome.symm.trans hnext
      have hrest : c.inbound.bytes.drop (body.length + 1) = rest := by
        rw [hbytes, List.drop_length_add_append]
        rfl
      rw [ih hconnected, ByteQueue.bytes_discard, hrest, hbytes, c.framing.trim_eq_messageOf]
      unfold Framing.messages
      rw [Framing.pieces_cons hbody]
      rfl

theorem pending_eq {c : Connection σ} (hconnected : c.phase = .connected) :
    c.pending = c.nextAll.length := by
  unfold pending
  rw [if_pos (by simp [isConnected, hconnected]), nextAll_eq hconnected, Framing.messages,
    List.length_map, Framing.length_pieces]
  rfl

end Connection

namespace Run

structure Reads (f : Framing) (kept : Bytes) (r : Run σ) : Prop where
  tied : r.Tied
  framing : r.connection.framing = f
  connected : r.connection.phase = .connected
  taken : kept ++ r.socket.taken = r.log.output ++ r.connection.inbound.bytes
  cut : r.log.CutBy f
  untaken : ∀ bs, .handedOut bs ∉ r.log

/-- What was handed out are the first messages of a stream, the rest of the stream waits, and the
messages in this rest are what would be handed out next. -/
structure Segmented (f : Framing) (heard : Bytes) (r : Run σ) : Prop where
  returned : r.log.returned = (f.messages heard).take r.log.returned.length
  inbound : f.stream ((f.pieces heard).take r.log.returned.length) ++ r.connection.inbound.bytes =
    heard
  remaining : r.connection.nextAll = (f.messages heard).drop r.log.returned.length
  pending : r.connection.pending = r.connection.nextAll.length

variable {f : Framing} {kept : Bytes} {r r' : Run σ} {m : Move σ} {events : Log}
  {taken requests messages replies : Bytes}

theorem Reads.change (h : Reads f kept r) (hm : ∀ n, m ≠ .take n)
    (hc : Change m r r' events taken requests messages replies) : Reads f kept r' := by
  obtain ⟨result, -, hleads⟩ := hc.leads
  obtain ⟨rfl, hconnected⟩ := hleads.connected_of h.connected
  refine ⟨hc.tied, hc.framing.trans h.framing, hconnected, ?taken, ?cut, ?untaken⟩
  case taken =>
    have hin := hc.inbound
    rw [List.nil_append] at hin
    rw [hc.carried.taken, ← List.append_assoc, h.taken, List.append_assoc, hin, hc.log,
      Log.output_append, List.append_assoc]
  case cut =>
    rw [hc.log]
    exact h.cut.append (h.framing ▸ hc.cutBy)
  case untaken =>
    intro bs hmem
    rw [hc.log] at hmem
    rcases List.mem_append.1 hmem with hold | hnew
    · exact h.untaken bs hold
    · obtain ⟨n, hn⟩ := hc.handedOut bs hnew
      exact hm n hn

theorem Reads.segmented (h : Reads f kept r) : Segmented f (kept ++ r.socket.taken) r := by
  obtain ⟨bodies, houtput, hreturned, hbodies⟩ := h.cut.exists_bodies h.untaken
  have hheard : kept ++ r.socket.taken = f.stream bodies ++ r.connection.inbound.bytes := by
    rw [h.taken, houtput]
  have hpieces : f.pieces (kept ++ r.socket.taken) =
      bodies ++ f.pieces r.connection.inbound.bytes := by
    rw [hheard, Framing.pieces_stream_append hbodies]
  have hmessages : f.messages (kept ++ r.socket.taken) =
      r.log.returned ++ f.messages r.connection.inbound.bytes := by
    rw [h.taken, h.cut.messages_append h.untaken]
  have hlength : r.log.returned.length = bodies.length := by
    rw [hreturned, List.length_map]
  refine ⟨?returned, ?inbound, ?remaining, Connection.pending_eq h.connected⟩
  case returned => rw [hmessages, List.take_left]
  case inbound => rw [hpieces, hlength, List.take_left, hheard]
  case remaining => rw [Connection.nextAll_eq h.connected, h.framing, hmessages, List.drop_left]

variable [Transport σ]

theorem Reads.run (h : Reads f kept r) {ms : List (Move σ)} (hms : ∀ n, .take n ∉ ms) :
    Reads f kept (r.run ms) :=
  run_induction (fun _ h => h.tied) (fun hm h hc => h.change (fun n hn => hms n (hn ▸ hm)) hc) h

/-- Whatever pieces a stream comes in and whenever messages are asked for, the owner gets the first
messages of the stream, and the rest of it waits for him. -/
theorem segmented_of_connected (htied : r.Tied) (hconnected : r.connection.phase = .connected)
    (hlog : r.log = []) (htaken : r.socket.taken = []) {ms : List (Move σ)}
    (hms : ∀ n, .take n ∉ ms) :
    Segmented r.connection.framing (r.connection.inbound.bytes ++ (r.run ms).socket.taken)
      (r.run ms) := by
  have hreads : Reads r.connection.framing r.connection.inbound.bytes r := {
    tied := htied
    framing := rfl
    connected := hconnected
    taken := by
      rw [htaken, hlog, List.append_nil]
      rfl
    cut := by
      rw [hlog]
      exact nofun
    untaken := by
      rw [hlog]
      exact nofun }
  exact (hreads.run hms).segmented

theorem segmented_of_connected_in_pieces :
    let script : Script := { reads := [.data [97, 13, 13, 10], .fail .blocked, .data [10, 98],
      .fail .blocked, .data [13, 10, 99], .endOfStream] }
    let unused : Connection (Recorded Script) := .create ⟨10, some 13⟩ none
    let c := { unused with
      socket := some { stream := script }
      phase := .connected
      inbound := ⟨[120], [], ByteQueue.readCeiling⟩ }
    let ms : List (Move Script) := [.service .reading, .next, .service .reading, .next, .next,
      .service .reading, .next, .next]
    let r := Run.run { connection := c, socket := { stream := script } } ms
    r.connection.socket = none ∧ r.log.returned = [[120, 97, 13], [], [98]] ∧
      r.connection.inbound.bytes = [99] ∧
      Segmented c.framing ([120] ++ r.socket.taken) r := by
  intro script unused c ms r
  have hms : ∀ n, .take n ∉ ms := by simp [ms]
  refine ⟨by decide +kernel, by decide +kernel, by decide +kernel, ?_⟩
  exact segmented_of_connected (r := { connection := c, socket := { stream := script } })
    (fun _ hs => Option.some.inj hs) rfl rfl rfl hms

end Run

end LineTunnel
