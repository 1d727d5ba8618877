import LineTunnel.ByteQueue.Lemmas
import Mathlib.Data.Stream.Init

/-! The queue that a byte queue stands for. It has no storage that grows: what is behind its valid
bytes goes on without end, at first as zeros. An operation on the byte queue answers as it does on
the ideal one, in any sequence of operations that keeps to the room there is. -/

namespace LineTunnel

namespace ByteQueue

inductive Operation where
  | append (bs : Bytes)
  | reserve (n : Nat)
  | write (n offset : Nat) (bs : Bytes)
  | commit (n : Nat)
  | consume (n : Nat)
  | peek (n : Nat)
  | discard (n : Nat)
  | find (b : UInt8)
  | count (b : UInt8)
  | reset

inductive Answer where
  | done
  | refused (f : Failure)
  | region (bs : Bytes)
  | head (bs : Option Bytes)
  | place (n : Option Nat)
  | number (n : Nat)
  deriving DecidableEq, Repr

def perform (q : ByteQueue) : Operation → Answer × ByteQueue
  | .append bs =>
    match q.append bs with
    | .ok r => (.done, r)
    | .error f => (.refused f, q)
  | .reserve n =>
    match q.reserve n with
    | .ok r => (.region (r.spare.take n), r)
    | .error f => (.refused f, q)
  | .write n offset bs =>
    match q.reserve n with
    | .ok r => (.done, r.stage (r.spare.take offset ++ bs))
    | .error f => (.refused f, q)
  | .commit n => (.done, q.commit n)
  | .consume n =>
    match q.consume n with
    | some (bs, r) => (.head (some bs), r)
    | none => (.head none, q)
  | .peek n => (.head (q.peek n), q)
  | .discard n => (.done, q.discard n)
  | .find b => (.place (q.find b), q)
  | .count b => (.number (q.count b), q)
  | .reset => (.done, q.reset)

def run (q : ByteQueue) : List Operation → List Answer × ByteQueue
  | [] => ([], q)
  | op :: ops =>
    let (answer, r) := q.perform op
    let (answers, last) := r.run ops
    (answer :: answers, last)

/-- Only reserved room is written to, and only room that there is becomes valid. -/
def Operation.Proper (q : ByteQueue) : Operation → Prop
  | .write n offset bs => offset + bs.length ≤ n
  | .commit n => n ≤ q.spare.length
  | _ => True

instance Operation.decidableProper (q : ByteQueue) : (op : Operation) → Decidable (op.Proper q)
  | .write .. | .commit _ => inferInstanceAs (Decidable (_ ≤ _))
  | .append _ | .reserve _ | .consume _ | .peek _ | .discard _ | .find _ | .count _ | .reset =>
    .isTrue trivial

def Proper (q : ByteQueue) : List Operation → Prop
  | [] => True
  | op :: ops => op.Proper q ∧ (q.perform op).2.Proper ops

instance decidableProper : (q : ByteQueue) → (ops : List Operation) → Decidable (q.Proper ops)
  | _, [] => .isTrue trivial
  | q, op :: ops =>
    have := decidableProper (q.perform op).2 ops
    inferInstanceAs (Decidable (op.Proper q ∧ (q.perform op).2.Proper ops))

end ByteQueue

open ByteQueue (Operation Answer)

structure Ideal where
  bytes : Bytes
  behind : Stream' UInt8
  ceiling : Nat

namespace Ideal

def empty (ceiling : Nat) : Ideal := ⟨[], .const 0, ceiling⟩

def Refuses (x : Ideal) (n : Nat) : Prop := x.ceiling < x.bytes.length + n

instance (x : Ideal) (n : Nat) : Decidable (x.Refuses n) := inferInstanceAs (Decidable (_ < _))

def peek (x : Ideal) (n : Nat) : Option Bytes :=
  if x.bytes.length < n then none else some (x.bytes.take n)

def discard (x : Ideal) (n : Nat) : Ideal :=
  { x with
    bytes := x.bytes.drop n
    behind := x.bytes.drop (x.bytes.length - n) ++ₛ x.behind }

def perform (x : Ideal) : Operation → Answer × Ideal
  | .append bs =>
    if x.Refuses bs.length then (.refused (.link .bufferFull), x)
    else (.done, { x with bytes := x.bytes ++ bs, behind := x.behind.drop bs.length })
  | .reserve n =>
    if x.Refuses n then (.refused (.link .bufferFull), x) else (.region (x.behind.take n), x)
  | .write n offset bs =>
    if x.Refuses n then (.refused (.link .bufferFull), x)
    else
      let written := x.behind.take offset ++ bs
      (.done, { x with behind := written ++ₛ x.behind.drop written.length })
  | .commit n =>
    (.done, { x with bytes := x.bytes ++ x.behind.take n, behind := x.behind.drop n })
  | .consume n =>
    match x.peek n with
    | some bs => (.head (some bs), x.discard n)
    | none => (.head none, x)
  | .peek n => (.head (x.peek n), x)
  | .discard n => (.done, x.discard n)
  | .find b => (.place (x.bytes.findIdx? (· == b)), x)
  | .count b => (.number (x.bytes.count b), x)
  | .reset => (.done, empty x.ceiling)

def run (x : Ideal) : List Operation → List Answer × Ideal
  | [] => ([], x)
  | op :: ops =>
    let (answer, y) := x.perform op
    let (answers, last) := y.run ops
    (answer :: answers, last)

end Ideal

namespace ByteQueue

variable {q r : ByteQueue} {n ceiling : Nat} {bs : Bytes} {op : Operation}

def ideal (q : ByteQueue) : Ideal := ⟨q.bytes, q.spare ++ₛ .const 0, q.ceiling⟩

theorem zeros_append_const (n : Nat) :
    List.replicate n 0 ++ₛ (.const 0 : Stream' UInt8) = .const 0 := by
  induction n with
  | zero => rfl
  | succ n ih => rw [List.replicate_succ, Stream'.cons_append_stream, ih, ← Stream'.const_eq]

theorem take_behind (hn : n ≤ q.spare.length) : q.ideal.behind.take n = q.spare.take n :=
  Stream'.take_append_of_le_length n q.spare _ hn

theorem drop_behind (hn : n ≤ q.spare.length) :
    q.ideal.behind.drop n = q.spare.drop n ++ₛ .const 0 :=
  Stream'.drop_append_of_le_length n q.spare _ hn

theorem ideal_reserve (hr : q.reserve n = .ok r) : r.ideal = q.ideal := by
  obtain ⟨k, rfl, -⟩ := reserve_cases hr
  unfold ideal
  rw [Stream'.append_append_stream, zeros_append_const]

theorem ideal_stage (hn : bs.length ≤ q.spare.length) :
    (q.stage bs).ideal = { q.ideal with behind := bs ++ₛ q.ideal.behind.drop bs.length } := by
  rw [drop_behind hn, ← Stream'.append_append_stream, ideal, stage, List.take_of_length_le hn]
  rfl

theorem ideal_commit (hn : n ≤ q.spare.length) :
    (q.commit n).ideal = { q.ideal with
      bytes := q.bytes ++ q.ideal.behind.take n
      behind := q.ideal.behind.drop n } := by
  rw [take_behind hn, drop_behind hn]
  rfl

theorem peek_ideal (q : ByteQueue) (n : Nat) : q.ideal.peek n = q.peek n := by
  change (if q.length < n then none else _) = if n ≤ q.length then _ else none
  by_cases hn : n ≤ q.length
  · rw [if_neg (Nat.not_lt.2 hn), if_pos hn]
    rfl
  · rw [if_pos (Nat.lt_of_not_le hn), if_neg hn]

theorem ideal_discard (q : ByteQueue) (n : Nat) : (q.discard n).ideal = q.ideal.discard n := by
  unfold ideal discard Ideal.discard
  rw [Stream'.append_append_stream]
  rfl

theorem ideal_push (hn : bs.length ≤ q.spare.length) :
    (q.push bs).ideal = { q.ideal with
      bytes := q.ideal.bytes ++ bs
      behind := q.ideal.behind.drop bs.length } := by
  have hroom : bs.length ≤ (q.stage bs).spare.length := (length_spare_stage q bs).symm ▸ hn
  have htake : (bs ++ₛ q.ideal.behind.drop bs.length).take bs.length = bs := by
    rw [Stream'.take_append_of_le_length _ _ _ (Nat.le_refl _), List.take_length]
  rw [push, ideal_commit hroom, ideal_stage hn]
  dsimp only
  rw [htake, Stream'.drop_append_stream]
  rfl

theorem reserve_ideal (h : q.Fits ceiling) (n : Nat) :
    q.ideal.Refuses n ∧ q.reserve n = .error (.link .bufferFull) ∨
      ¬q.ideal.Refuses n ∧ ∃ r, q.reserve n = .ok r ∧ r.ideal = q.ideal ∧ n ≤ r.spare.length := by
  by_cases hfull : q.ideal.Refuses n
  · exact .inl ⟨hfull, h.reserve_eq_error (h.ceiling_eq ▸ hfull)⟩
  · obtain ⟨r, hr⟩ := exists_reserve_eq_ok (q := q) (n := n) (Nat.le_of_not_lt hfull)
    exact .inr ⟨hfull, r, hr, ideal_reserve hr, (reserve_eq_ok hr).2.2.1⟩

theorem perform_ideal (h : q.Fits ceiling) (hop : op.Proper q) :
    q.ideal.perform op = ((q.perform op).1, (q.perform op).2.ideal) := by
  cases op with
  | append bs =>
    rw [Ideal.perform, perform, ByteQueue.append]
    rcases reserve_ideal h bs.length with ⟨hfull, hr⟩ | ⟨hroom, r, hr, hsame, hspare⟩
    · rw [if_pos hfull, hr]
      rfl
    · rw [if_neg hroom, hr, ← hsame]
      exact congrArg _ (ideal_push hspare).symm
  | reserve n =>
    rw [Ideal.perform, perform]
    rcases reserve_ideal h n with ⟨hfull, hr⟩ | ⟨hroom, r, hr, hsame, hspare⟩
    · rw [if_pos hfull, hr]
    · rw [if_neg hroom, hr, ← hsame, take_behind hspare]
  | write n offset bs =>
    rw [Ideal.perform, perform]
    rcases reserve_ideal h n with ⟨hfull, hr⟩ | ⟨hroom, r, hr, hsame, hspare⟩
    · rw [if_pos hfull, hr]
    · have hend : offset + bs.length ≤ r.spare.length := Nat.le_trans hop hspare
      have hoffset : offset ≤ r.spare.length := Nat.le_of_add_right_le hend
      have hwritten : (r.spare.take offset ++ bs).length ≤ r.spare.length := by
        rw [List.length_append, List.length_take_of_le hoffset]
        exact hend
      rw [if_neg hroom, hr, ← hsame, take_behind hoffset]
      exact congrArg _ (ideal_stage hwritten).symm
  | commit n => exact congrArg _ (ideal_commit hop).symm
  | consume n =>
    rw [Ideal.perform, perform, consume, peek_ideal]
    cases q.peek n with
    | none => rfl
    | some bs => exact congrArg _ (ideal_discard q n).symm
  | peek n => exact congrArg (fun bs => (Answer.head bs, q.ideal)) (peek_ideal q n)
  | discard n => exact congrArg _ (ideal_discard q n).symm
  | find b => rfl
  | count b => rfl
  | reset => rfl

theorem Fits.perform (h : q.Fits ceiling) (op : Operation) : (q.perform op).2.Fits ceiling := by
  unfold ByteQueue.perform
  cases op with
  | append bs =>
    dsimp only
    split
    · next hr => exact h.append hr
    · exact h
  | reserve n =>
    dsimp only
    split
    · next hr => exact h.reserve hr
    · exact h
  | write n offset bs =>
    dsimp only
    split
    · next hr => exact (h.reserve hr).stage _
    · exact h
  | commit n => exact h.commit n
  | consume n =>
    dsimp only
    split
    · next hconsume => exact (consume_eq_some hconsume).2.2 ▸ h.discard n
    · exact h
  | peek n => exact h
  | discard n => exact h.discard n
  | find b => exact h
  | count b => exact h
  | reset => exact h.reset

theorem run_ideal {ops : List Operation} (h : q.Fits ceiling) (hops : q.Proper ops) :
    q.ideal.run ops = ((q.run ops).1, (q.run ops).2.ideal) := by
  induction ops generalizing q with
  | nil => rfl
  | cons op ops ih =>
    rw [Ideal.run, perform_ideal h hops.1]
    dsimp only
    rw [ih (h.perform op) hops.2]
    rfl

theorem Fits.run (h : q.Fits ceiling) (ops : List Operation) : (q.run ops).2.Fits ceiling := by
  induction ops generalizing q with
  | nil => exact h
  | cons op ops ih => exact ih (h.perform op)

end ByteQueue

end LineTunnel
