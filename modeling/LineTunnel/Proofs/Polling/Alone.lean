import Mathlib.Data.List.Forall2
import LineTunnel.Proofs.Connection.Failing
import LineTunnel.Proofs.Polling.Places
import LineTunnel.Transport.Link

/-! A poll of several connections against polls of each of them alone. The two are the same, unless
one of the connections has a failure to act on: then it is only such connections that are served. -/

namespace LineTunnel.Polling

variable {σ : Type} [Pollable σ]

theorem one_of_inactive {c : Connection σ} (h : c.isActive = false) : one c = skip c := by
  have hsocket : c.socket = none := by simpa [Connection.isActive] using h
  have hseen : seen c = 0 := by
    unfold seen request?
    rw [hsocket]
    rfl
  rw [one_eq]
  unfold ready? isUrgent
  rw [h, hseen]
  rfl

inductive ActedOn (c : Connection σ) (e : Effect σ (Option Outcome)) : Prop
  | known {f : Failure} : c.isActive = true → c.failure = some f → e = serve .none c →
      e.answer = some { failure := some f } → e.after.isActive = false → ActedOn c e
  | untouched : isUrgent c = false → e = skip c → ActedOn c e

theorem actedOn_serveIf (c : Connection σ) : ActedOn c (serveIf urgent? c) := by
  unfold serveIf urgent?
  cases hurgent : isUrgent c with
  | false => exact .untouched hurgent rfl
  | true =>
    obtain ⟨hactive, hfailure⟩ := Bool.and_eq_true_iff.1 hurgent
    obtain ⟨s, hs⟩ := Option.isSome_iff_exists.1 hactive
    obtain ⟨f, hf⟩ := Option.isSome_iff_exists.1 hfailure
    obtain ⟨hanswer, -, watcher, hafter⟩ := Connection.service_of_known hs hf .none
    refine .known hactive hf rfl (congrArg some hanswer) ?_
    exact (congrArg Connection.isActive hafter).trans rfl

/-- What a poll of these connections leads to: all failures that are known are acted on, and
nothing else is done, or each connection fares as if it were polled alone. -/
inductive Fares (cs : List (Connection σ)) (es : List (Effect σ (Option Outcome))) : Prop
  | failing : cs.any isUrgent = true → List.Forall₂ ActedOn cs es →
      (∀ place, place ∈ (due cs).map Prod.fst ↔ ∃ c, cs[place]? = some c ∧ isUrgent c = true) →
      Fares cs es
  | alone : cs.any isUrgent = false → es = cs.map one →
      (∀ c ∈ cs, c.isActive = false → one c = skip c) → Fares cs es

theorem mem_due_of_any {cs : List (Connection σ)} (h : cs.any isUrgent = true) (place : Nat) :
    place ∈ (due cs).map Prod.fst ↔ ∃ c, cs[place]? = some c ∧ isUrgent c = true := by
  have hserved (c : Connection σ) (ready : Readiness) :
      servedFor cs c = some ready ↔ isUrgent c = true ∧ ready = .none := by
    unfold servedFor
    rw [if_pos h]
    unfold urgent?
    rw [Option.ite_none_right_eq_some, Option.some.injEq, eq_comm (a := ready)]
  rw [due_eq, List.mem_map]
  constructor
  · rintro ⟨⟨_, ready⟩, hmem, rfl⟩
    obtain ⟨c, hc, hready⟩ := mem_services.1 hmem
    exact ⟨c, hc, ((hserved c ready).1 hready).1⟩
  · rintro ⟨c, hc, hurgent⟩
    exact ⟨(place, .none), mem_services.2 ⟨c, hc, (hserved c .none).2 ⟨hurgent, rfl⟩⟩, rfl⟩

theorem one_of_not_any {cs : List (Connection σ)} (h : cs.any isUrgent = false)
    {c : Connection σ} (hc : c ∈ cs) : serveIf (servedFor cs) c = one c := by
  have hcalm : isUrgent c = false := by simpa using List.any_eq_false.1 h c hc
  have hready : ready? c = polled? c := if_neg (by simp [hcalm])
  have hserved : servedFor cs = polled? := if_neg (by simp [h])
  rw [one_eq, hready, hserved]
  rfl

theorem fares_all (cs : List (Connection σ)) : Fares cs (all cs) := by
  cases h : cs.any isUrgent with
  | true =>
    refine .failing h ?_ (mem_due_of_any h)
    have hserved : servedFor cs = urgent? := if_pos h
    rw [all_eq, hserved, List.forall₂_map_right_iff, List.forall₂_same]
    exact fun c _ => actedOn_serveIf c
  | false =>
    refine .alone h ?_ fun c _ => one_of_inactive
    rw [all_eq]
    exact List.map_congr_left fun c hc => one_of_not_any h hc

/-- One effect a connection, in order; no connection is served twice. -/
theorem all_alone (cs : List (Connection σ)) :
    (all cs).length = cs.length ∧ ((due cs).map Prod.fst).Nodup ∧ Fares cs (all cs) := by
  refine ⟨?_, ?_, fares_all cs⟩
  · rw [all_eq, List.length_map]
  · rw [due_eq]
    exact nodup_services (servedFor cs) cs

example :
    let closed : Connection Link := .create ⟨10, none⟩ none
    let opened (inbox : Bytes) : Connection Link := (closed.adopt { inbox }).after
    due [closed, opened [97], opened [], opened [98]] = [(1, .reading), (3, .reading)] := by
  decide +kernel

end LineTunnel.Polling
