import LineTunnel.Proofs.Session.Connecting

/-! The sessions that there are: each was created with a configuration and has since connected,
sent, received and closed in any order. None of this changes where it goes and whom it asks. -/

namespace LineTunnel

variable {σ : Type}

namespace Connection

structure SameProxy (c c' : Connection σ) : Prop where
  server : c'.server = c.server
  prompter : c'.prompter = c.prompter

theorem SameProxy.trans {c c' c'' : Connection σ} (h : SameProxy c c') (h' : SameProxy c' c'') :
    SameProxy c c'' := ⟨h'.server.trans h.server, h'.prompter.trans h.prompter⟩

theorem sameProxy_shutdown (c : Connection σ) : SameProxy c c.shutdown.after := by
  obtain ⟨watcher, told, hshutdown⟩ := c.shutdown_eq
  rw [hshutdown]
  exact ⟨rfl, rfl⟩

theorem sameProxy_startConnect (machine : Machine σ) (bindAddress : Option String) (host : String)
    (port : UInt16) (c : Connection σ) :
    SameProxy c (c.startConnect machine bindAddress host port).after := by
  cases hanswer : (c.startConnect machine bindAddress host port).answer with
  | error f =>
    obtain ⟨watcher, hafter⟩ := startConnect_eq_error hanswer
    rw [hafter]
    exact ⟨rfl, rfl⟩
  | ok u =>
    obtain ⟨watcher, opening, phase, handshake, dialed, realHost, realPort, -, -, -, hafter⟩ :=
      startConnect_eq_ok hanswer
    rw [hafter]
    exact ⟨rfl, rfl⟩

theorem sameProxy_queue (message : Bytes) (c : Connection σ) :
    SameProxy c (c.queue message).after := by
  rcases c.queue_cases message with
    ⟨watcher, outbound, told, -, -, hqueue⟩ | ⟨f, watcher, told, -, hqueue⟩ <;>
  · rw [hqueue]
    exact ⟨rfl, rfl⟩

theorem sameProxy_submit (user password : String) (c : Connection σ) :
    SameProxy c (c.submit user password).after := by
  rcases c.submit_cases user password with
    ⟨n, frame, watcher, handshake, told, -, -, -, -, -, hsubmit⟩ |
    ⟨f, failure, watcher, told, -, -, hsubmit⟩ <;>
  · rw [hsubmit]
    exact ⟨rfl, rfl⟩

theorem sameProxy_next (c : Connection σ) : SameProxy c c.next.2 := by
  rcases c.next_cases with hnext | ⟨-, body, rest, -, -, hnext⟩ <;>
  · rw [hnext]
    exact ⟨rfl, rfl⟩

theorem sameProxy_service [Transport σ] (ready : Readiness) (c : Connection σ) :
    SameProxy c (c.service ready).after := by
  obtain ⟨socket, phase, inbound, outbound, handshake, failure, watcher, hafter⟩ :=
    c.service_eq ready
  rw [hafter]
  exact ⟨rfl, rfl⟩

theorem sameProxy_one [Pollable σ] (c : Connection σ) : SameProxy c (Polling.one c).after := by
  rw [Polling.one_eq]
  cases Polling.ready? c with
  | none => exact ⟨rfl, rfl⟩
  | some ready => exact sameProxy_service ready c

end Connection

namespace Session

structure Serves (config : Config) (s : Session σ) : Prop where
  configured : s.config = config
  proxied : ∀ proxy, config.proxy = some proxy →
    (∃ server, proxy.server = .ok server ∧ s.connection.server = some server) ∧
      s.connection.prompter = some prompter

variable {config : Config} {s : Session σ}

theorem Serves.congr (h : s.Serves config) {c : Connection σ}
    (hsame : s.connection.SameProxy c) : Serves config { s with connection := c } where
  configured := h.configured
  proxied proxy hproxy := by
    change (∃ server, _ ∧ c.server = some server) ∧ c.prompter = some prompter
    rw [hsame.server, hsame.prompter]
    exact h.proxied proxy hproxy

theorem serves_create (h : create config = .ok s) : s.Serves config := by
  unfold create at h
  dsimp only at h
  split at h
  · next hnone =>
    cases h
    exact ⟨rfl, fun proxy hproxy => nomatch hnone.symm.trans hproxy⟩
  · next proxy hsome =>
    split at h
    · cases h
    · next server hserver =>
      cases h
      refine ⟨rfl, fun proxy' hproxy => ?_⟩
      cases hsome.symm.trans hproxy
      exact ⟨⟨server, hserver, rfl⟩, rfl⟩

theorem Serves.close (h : s.Serves config) : s.close.Serves config :=
  h.congr (Connection.sameProxy_shutdown s.connection)

variable [Pollable σ]

theorem Serves.pump (turn : Turn σ) (h : s.Serves config) : (s.pump turn).Serves config := by
  have hturned : s.connection.SameProxy
      { s.connection with socket := s.connection.socket.map turn } := ⟨rfl, rfl⟩
  have hserved := hturned.trans (Connection.sameProxy_one _)
  unfold Session.pump
  dsimp only
  split
  · exact h.congr (hserved.trans (Connection.sameProxy_submit ..))
  · exact h.congr hserved

theorem Serves.connect (h : s.Serves config) (machine : Machine σ) (turns : List (Turn σ)) :
    (s.connect machine turns).2.Serves config := by
  have hdial : (s.dial machine).2.Serves config :=
    h.congr (Connection.sameProxy_startConnect ..)
  unfold Session.connect
  split
  · next e dialed hdialed => rwa [hdialed] at hdial
  · next dialed hdialed =>
    rw [hdialed] at hdial
    obtain ⟨s', hs', hawait⟩ := await_eq (P := Serves config) (fun turn _ => Serves.pump turn)
      (fun s => s.dialed?.map (·, s)) turns hdial
    rw [hawait]
    cases s'.dialed? with
    | none => exact hs'.close
    | some answer => exact hs'

theorem Serves.send (h : s.Serves config) (message : Bytes) (turns : List (Turn σ)) :
    (s.send message turns).2.Serves config := by
  have hpost : (s.post message).2.Serves config := by
    unfold post
    split
    · exact h.congr (Connection.sameProxy_queue ..)
    · exact h
  unfold Session.send
  split
  · next e posted hposted => rwa [hposted] at hpost
  · next posted hposted =>
    rw [hposted] at hpost
    obtain ⟨s', hs', hawait⟩ := await_eq (P := Serves config) (fun turn _ => Serves.pump turn)
      (fun s => if s.isFlushed then some ((), s) else none) turns hpost
    rw [hawait]
    cases hflushed : s'.isFlushed <;> simpa [hflushed] using hs'

theorem Serves.receive (h : s.Serves config) (turns : List (Turn σ)) :
    (s.receive turns).2.Serves config := by
  obtain ⟨s', hs', hawait⟩ := await_eq (P := Serves config) (fun turn _ => Serves.pump turn)
    received? turns h
  rcases receive_of_await hawait with
    ⟨message, connection, hnext, hreceive⟩ | ⟨-, ⟨-, hreceive⟩ | ⟨-, hreceive⟩⟩
  · have hsame := Connection.sameProxy_next s'.connection
    rw [hnext] at hsame
    rw [hreceive]
    exact hs'.congr hsame
  · rw [hreceive]
    exact hs'
  · rw [hreceive]
    exact hs'

inductive Arises (config : Config) : Session σ → Prop
  | created {s : Session σ} : create config = .ok s → Arises config s
  | connected {s : Session σ} (machine : Machine σ) (turns : List (Turn σ)) :
      Arises config s → Arises config (s.connect machine turns).2
  | performed {s : Session σ} (call : Call σ) : Arises config s → Arises config (s.perform call)

theorem Arises.serves (h : Arises config s) : s.Serves config := by
  induction h with
  | created hcreate => exact serves_create hcreate
  | connected machine turns _ ih => exact ih.connect machine turns
  | performed call _ ih =>
    cases call with
    | send message turns => exact ih.send message turns
    | receive turns => exact ih.receive turns
    | close => exact ih.close

end Session

end LineTunnel
