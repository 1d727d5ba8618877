import LineTunnel.Polling

/-! What is seen on a socket comes back to the connection that the socket belongs to, wherever it
stands among the others: a poll of several connections serves each for what it calls for itself. -/

namespace LineTunnel.Polling

variable {σ : Type}

def services (calls : Connection σ → Option Readiness) (start : Nat) (cs : List (Connection σ)) :
    List (Nat × Readiness) :=
  (cs.zipIdx start).filterMap fun (c, place) => (calls c).map fun ready => (place, ready)

theorem services_cons (calls : Connection σ → Option Readiness) (start : Nat) (c : Connection σ)
    (cs : List (Connection σ)) : services calls start (c :: cs) =
      ((calls c).map fun ready => (start, ready)).toList ++ services calls (start + 1) cs := by
  unfold services
  rw [List.zipIdx_cons, List.filterMap_cons]
  dsimp only
  cases calls c <;> rfl

theorem mem_services {calls : Connection σ → Option Readiness} {cs : List (Connection σ)}
    {place : Nat} {ready : Readiness} : (place, ready) ∈ services calls 0 cs ↔
      ∃ c, cs[place]? = some c ∧ calls c = some ready := by
  unfold services
  rw [List.mem_filterMap]
  constructor
  · rintro ⟨⟨c, place'⟩, hmem, hcalls⟩
    obtain ⟨ready', hready, heq⟩ := Option.map_eq_some_iff.1 hcalls
    cases heq
    exact ⟨c, List.mem_zipIdx_iff_getElem?.1 hmem, hready⟩
  · rintro ⟨c, hc, hready⟩
    refine ⟨(c, place), List.mem_zipIdx_iff_getElem?.2 hc, ?_⟩
    dsimp only
    rw [hready]
    rfl

theorem nodup_services (calls : Connection σ → Option Readiness) (cs : List (Connection σ)) :
    ((services calls 0 cs).map Prod.fst).Nodup := by
  have hplaces (start : Nat) : (services calls start cs).map Prod.fst =
      ((cs.zipIdx start).filter fun (c, _) => (calls c).isSome).map Prod.snd := by
    induction cs generalizing start with
    | nil => rfl
    | cons c cs ih =>
      rw [services_cons, List.zipIdx_cons, List.filter_cons, List.map_append, ih (start + 1)]
      cases h : calls c <;> simp [h]
  rw [hplaces]
  refine List.Nodup.sublist (List.filter_sublist.map Prod.snd) ?_
  rw [List.zipIdx_map_snd]
  exact List.nodup_range'

variable [Pollable σ]

def seen (c : Connection σ) : PollEvents :=
  ((request? c).map fun (s, asked) => Pollable.poll s asked).getD 0

def urgent? (c : Connection σ) : Option Readiness := if isUrgent c then some .none else none

def polled? (c : Connection σ) : Option Readiness :=
  if seen c = 0 then none else some (seen c).readiness

def ready? (c : Connection σ) : Option Readiness :=
  if isUrgent c then some .none
  else if seen c = 0 then none
  else some (seen c).readiness

def serveIf (calls : Connection σ → Option Readiness) (c : Connection σ) :
    Effect σ (Option Outcome) :=
  ((calls c).map (serve · c)).getD (skip c)

theorem serveAt_append (done rest : List (Effect σ (Option Outcome))) (c : Connection σ)
    (ready : Readiness) :
    serveAt (done ++ skip c :: rest) (done.length, ready) = done ++ serve ready c :: rest := by
  unfold serveAt List.modify
  exact List.modifyTailIdx_add _ 0 done (skip c :: rest)

theorem foldl_services (calls : Connection σ → Option Readiness) (cs : List (Connection σ))
    (done : List (Effect σ (Option Outcome))) :
    (services calls done.length cs).foldl serveAt (done ++ cs.map skip) =
      done ++ cs.map (serveIf calls) := by
  induction cs generalizing done with
  | nil => rfl
  | cons c cs ih =>
    have hrest := ih (done ++ [serveIf calls c])
    rw [List.length_append, List.length_singleton, List.append_assoc, List.append_assoc] at hrest
    rw [services_cons, List.foldl_append, List.map_cons, List.map_cons]
    refine Eq.trans (congrArg (List.foldl serveAt · _) ?_) hrest
    unfold serveIf
    cases calls c with
    | none => rfl
    | some ready => exact serveAt_append done (cs.map skip) c ready

theorem zip_slots (start : Nat) (cs : List (Connection σ)) :
    ((((cs.zipIdx start).filterMap fun (c, place) => (request? c).map fun _ => place).zip
        (poll (cs.filterMap request?))).filterMap fun (place, events) =>
      if events = 0 then none else some (place, events.readiness)) = services polled? start cs := by
  induction cs generalizing start with
  | nil => rfl
  | cons c cs ih =>
    have hseen : seen c = ((request? c).map fun (s, asked) => Pollable.poll s asked).getD 0 := rfl
    rw [services_cons, ← ih (start + 1), List.zipIdx_cons, List.filterMap_cons,
      List.filterMap_cons]
    unfold polled?
    dsimp only
    cases hrequest : request? c with
    | none =>
      rw [hrequest] at hseen
      rw [hseen]
      rfl
    | some request =>
      rw [hrequest] at hseen
      rw [hseen]
      dsimp only [Option.map_some, Option.getD_some, poll]
      rw [List.map_cons, List.zip_cons_cons, List.filterMap_cons]
      dsimp only
      by_cases h : Pollable.poll request.1 request.2 = 0
      · rw [if_pos h, if_pos h]
        rfl
      · rw [if_neg h, if_neg h]
        rfl

def servedFor (cs : List (Connection σ)) : Connection σ → Option Readiness :=
  if cs.any isUrgent then urgent? else polled?

theorem due_eq (cs : List (Connection σ)) : due cs = services (servedFor cs) 0 cs := by
  cases h : cs.any isUrgent with
  | true =>
    unfold due servedFor services urgent?
    rw [if_pos h, if_pos h]
    congr
    funext ⟨c, place⟩
    dsimp only
    split <;> rfl
  | false =>
    unfold due servedFor slots
    rw [if_neg (by simp [h]), if_neg (by simp [h])]
    exact zip_slots 0 cs

theorem all_eq (cs : List (Connection σ)) : all cs = cs.map (serveIf (servedFor cs)) := by
  unfold all
  rw [due_eq]
  exact foldl_services (servedFor cs) cs []

theorem one_eq (c : Connection σ) : one c = ((ready? c).map (serve · c)).getD (skip c) := by
  have hready : ready? c = servedFor [c] c := by
    unfold ready? servedFor urgent? polled?
    cases h : isUrgent c <;> simp [h]
  unfold one
  rw [all_eq, hready]
  rfl

end LineTunnel.Polling
