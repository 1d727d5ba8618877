import LineTunnel.Proofs.Connection.Lifetime

/-! What a connection shows of its life to the outside: the answers of its operations, one after
the other, and the notices that it gives meanwhile. -/

namespace LineTunnel

variable {σ α β : Type}

inductive Answer where
  | done
  | result (r : Except Failure Unit)
  | outcome (o : Outcome)
  | bytes (bs : Option Bytes)

namespace Effect

def map (f : α → β) (e : Effect σ α) : Effect σ β := ⟨f e.answer, e.after, e.notices⟩

def following (told : List (Notice σ)) (e : Effect σ α) : Effect σ α :=
  { e with notices := told ++ e.notices }

theorem following_following (told told' : List (Notice σ)) (e : Effect σ α) :
    (e.following told').following told = e.following (told ++ told') :=
  congrArg (Effect.mk e.answer e.after) (List.append_assoc ..).symm

end Effect

namespace Connection

variable [Transport σ]

def perform (c : Connection σ) : Operation σ → Effect σ Answer
  | .queue message => (c.queue message).map .result
  | .submit user password => (c.submit user password).map .result
  | .service ready => (c.service ready).map .outcome
  | .next => ⟨.bytes c.next.1, c.next.2, []⟩
  | .take n => ⟨.bytes (c.take n).1, (c.take n).2, []⟩
  | .setWatcher listener => (c.setWatcher listener).map fun _ => .done
  | .setPrompter listener => ⟨.done, c.setPrompter listener, []⟩
  | .shutdown => c.shutdown.map fun _ => .done
  | .adopt socket => (c.adopt socket).map fun _ => .result (.ok ())
  | .refuse f => (c.refuse f).map .result
  | .startConnect machine bindAddress host port =>
    (c.startConnect machine bindAddress host port).map .result
  | .turn f => ⟨.done, { c with socket := c.socket.map f }, []⟩

theorem after_perform (c : Connection σ) (op : Operation σ) :
    (c.perform op).after = c.apply op := by
  cases op <;> rfl

def history (c : Connection σ) : List (Operation σ) → Effect σ (List Answer)
  | [] => ⟨[], c, []⟩
  | op :: ops =>
    let e := c.perform op
    ((e.after.history ops).map (e.answer :: ·)).following e.notices

theorem after_history (c : Connection σ) (ops : List (Operation σ)) :
    (c.history ops).after = c.after ops := by
  induction ops generalizing c with
  | nil => rfl
  | cons op ops ih =>
    refine (ih _).trans ?_
    rw [after_perform]
    rfl

end Connection

end LineTunnel
