import LineTunnel.Proofs.Connection.Change

/-! What the owner of a connected connection gets: the bytes taken from the socket, each once and in
order, cut into messages at the terminators. -/

namespace LineTunnel

namespace Log

def CutBy (f : Framing) (log : Log) : Prop :=
  ∀ raw message, .received raw message ∈ log → ∃ body,
    f.terminator ∉ body ∧ raw = body ++ [f.terminator] ∧ message = f.trim body

variable {f : Framing} {log log' : Log}

theorem CutBy.append (h : CutBy f log) (h' : CutBy f log') : CutBy f (log ++ log') := by
  intro raw message hmem
  rcases List.mem_append.1 hmem with hold | hnew
  · exact h raw message hold
  · exact h' raw message hnew

theorem CutBy.exists_bodies (h : CutBy f log) (htake : ∀ bs, .handedOut bs ∉ log) :
    ∃ bodies, log.output = f.stream bodies ∧ log.returned = bodies.map f.trim ∧
      ∀ body ∈ bodies, f.terminator ∉ body := by
  induction log with
  | nil => exact ⟨[], rfl, rfl, nofun⟩
  | cons e log ih =>
    obtain ⟨bodies, houtput, hreturned, hbodies⟩ :=
      ih (fun raw message hmem => h raw message (List.mem_cons_of_mem e hmem))
        (fun bs hmem => htake bs (List.mem_cons_of_mem e hmem))
    cases e with
    | received raw message =>
      obtain ⟨body, hbody, rfl, rfl⟩ := h raw message List.mem_cons_self
      refine ⟨body :: bodies, ?_, ?_, ?_⟩
      · rw [f.stream_cons, ← houtput]
        exact (List.append_cons body f.terminator _).symm
      · rw [List.map_cons, ← hreturned]
        rfl
      · intro body' hmem
        rcases List.mem_cons.1 hmem with rfl | hrest
        · exact hbody
        · exact hbodies body' hrest
    | handedOut bs => exact absurd List.mem_cons_self (htake bs)
    | queued message => exact ⟨bodies, houtput, hreturned, hbodies⟩
    | dropped message => exact ⟨bodies, houtput, hreturned, hbodies⟩
    | requested bs => exact ⟨bodies, houtput, hreturned, hbodies⟩

end Log

namespace Run

variable {σ : Type}

/-- A connected run in which everything that was taken from the socket behind some first bytes has
gone to the owner or waits for it. -/
structure Forwards (f : Framing) (said : Bytes) (r : Run σ) : Prop where
  tied : r.Tied
  framing : r.connection.framing = f
  connected : r.connection.phase = .connected
  taken : r.socket.taken = said ++ r.log.output ++ r.connection.inbound.bytes
  cut : r.log.CutBy f

variable {f : Framing} {said : Bytes} {r r' : Run σ} {m : Move σ} {events : Log}
  {taken requests messages replies : Bytes}

theorem Change.cutBy (hc : Change m r r' events taken requests messages replies) :
    events.CutBy r.connection.framing :=
  fun raw message hmem => (hc.received raw message hmem).2

theorem Change.taken_eq (hc : Change m r r' events taken requests messages replies)
    (htaken : r.socket.taken = said ++ r.log.output ++ r.connection.inbound.bytes)
    (horder : r.log.output = [] ∨ replies = []) :
    r'.socket.taken = (said ++ replies) ++ r'.log.output ++ r'.connection.inbound.bytes := by
  have hswap : r.log.output ++ replies = replies ++ r.log.output := by
    rcases horder with hnone | hnone <;> rw [hnone, List.nil_append, List.append_nil]
  calc r'.socket.taken
    _ = said ++ r.log.output ++ (r.connection.inbound.bytes ++ taken) := by
      rw [hc.carried.taken, htaken, List.append_assoc]
    _ = said ++ (r.log.output ++ replies) ++ (events.output ++ r'.connection.inbound.bytes) := by
      rw [hc.inbound]
      simp only [List.append_assoc]
    _ = (said ++ replies) ++ r'.log.output ++ r'.connection.inbound.bytes := by
      rw [hswap, hc.log, Log.output_append]
      simp only [List.append_assoc]

theorem Forwards.change (h : Forwards f said r)
    (hc : Change m r r' events taken requests messages replies) : Forwards f said r' := by
  obtain ⟨result, -, hleads⟩ := hc.leads
  obtain ⟨rfl, hconnected⟩ := hleads.connected_of h.connected
  have htaken := hc.taken_eq h.taken (.inr rfl)
  rw [List.append_nil] at htaken
  refine ⟨hc.tied, hc.framing.trans h.framing, hconnected, htaken, ?_⟩
  rw [hc.log]
  exact h.cut.append (h.framing ▸ hc.cutBy)

variable [Transport σ]

theorem Forwards.run (h : Forwards f said r) (ms : List (Move σ)) :
    Forwards f said (r.run ms) :=
  run_induction (fun _ h => h.tied) (fun _ h hc => h.change hc) h

end Run

end LineTunnel
