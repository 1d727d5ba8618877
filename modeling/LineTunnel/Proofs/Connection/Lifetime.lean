import LineTunnel.Proofs.Connection.Start
import LineTunnel.Proofs.Socks.Suitable

/-! The whole life of a connection: everything that its owner can do to it, connects included, in
any order, with the world at work on its socket in between. -/

namespace LineTunnel

variable {σ : Type}

inductive Operation (σ : Type) where
  | queue (message : Bytes)
  | submit (user password : String)
  | service (ready : Readiness)
  | next
  | take (n : Nat)
  | setWatcher (listener : Nat)
  | setPrompter (listener : Nat)
  | shutdown
  | adopt (socket : σ)
  /-- To adopt a socket that cannot be made to never wait. -/
  | refuse (f : Failure)
  | startConnect (machine : Machine σ) (bindAddress : Option String) (host : String)
      (port : UInt16)
  /-- The world changes the socket. -/
  | turn (f : σ → σ)

namespace Connection

theorem watch_of_closed {c : Connection σ} (h : c.isActive = false) : c.watch = .none := by
  unfold watch
  rw [h]
  rfl

variable [Transport σ]

def apply (c : Connection σ) : Operation σ → Connection σ
  | .queue message => (c.queue message).after
  | .submit user password => (c.submit user password).after
  | .service ready => (c.service ready).after
  | .next => c.next.2
  | .take n => (c.take n).2
  | .setWatcher listener => (c.setWatcher listener).after
  | .setPrompter listener => c.setPrompter listener
  | .shutdown => c.shutdown.after
  | .adopt socket => (c.adopt socket).after
  | .refuse f => (c.refuse f).after
  | .startConnect machine bindAddress host port =>
    (c.startConnect machine bindAddress host port).after
  | .turn f => { c with socket := c.socket.map f }

def after (c : Connection σ) (ops : List (Operation σ)) : Connection σ := ops.foldl apply c

theorem after_induction_among {P : Connection σ → Prop} {Q : Operation σ → Prop}
    (hkept : ∀ c op, Q op → P c → P (c.apply op)) {c : Connection σ} (h : P c)
    {ops : List (Operation σ)} (hops : ∀ op ∈ ops, Q op) : P (c.after ops) := by
  induction ops generalizing c with
  | nil => exact h
  | cons op ops ih =>
    obtain ⟨hop, hrest⟩ := List.forall_mem_cons.1 hops
    exact ih (hkept c op hop h) hrest

theorem after_induction {P : Connection σ → Prop} (hkept : ∀ c op, P c → P (c.apply op))
    {c : Connection σ} (h : P c) (ops : List (Operation σ)) : P (c.after ops) :=
  after_induction_among (Q := fun _ => True) (fun c op _ => hkept c op) h fun _ _ => trivial

end Connection

def Move.operation : Move σ → Operation (Recorded σ)
  | queue message => .queue message
  | submit user password => .submit user password
  | service ready => .service ready
  | next => .next
  | take n => .take n
  | setWatcher listener => .setWatcher listener
  | setPrompter listener => .setPrompter listener
  | turn f => .turn (Recorded.turn f)

variable [Transport σ]

theorem Move.after_effect (m : Move σ) (c : Connection (Recorded σ)) :
    (m.effect c).after = c.apply m.operation := by
  cases m with
  | queue message =>
    simp only [effect, operation, Connection.apply]
    split <;> rfl
  | submit user password =>
    simp only [effect, operation, Connection.apply]
    split <;> rfl
  | next =>
    simp only [effect, operation, Connection.apply]
    split <;> simp_all
  | take n =>
    simp only [effect, operation, Connection.apply]
    split <;> simp_all
  | service ready => rfl
  | setWatcher listener => rfl
  | setPrompter listener => rfl
  | turn f => rfl

theorem Run.connection_run (r : Run σ) (ms : List (Move σ)) :
    (r.run ms).connection = r.connection.after (ms.map Move.operation) := by
  induction ms generalizing r with
  | nil => rfl
  | cons m ms ih =>
    refine (ih (r.step m)).trans ?_
    exact congrArg (Connection.after · _) (m.after_effect r.connection)

theorem Run.connection_dial {machine : Machine σ} {bindAddress : Option String} {host : String}
    {port : UInt16} {c : Connection (Recorded σ)} {r : Run σ}
    (h : dial machine bindAddress host port c = some r) :
    r.connection = c.apply (.startConnect machine.recorded bindAddress host port) := by
  unfold dial at h
  dsimp only at h
  split at h
  · cases h
    rfl
  · cases h

end LineTunnel
