import LineTunnel.Proofs.Socks.Reaction

/-! A negotiation in which something goes wrong is as it was before. Nothing of a frame has been
queued, not even where there was no room for it, and of what the proxy has said at most the one
reply is gone that was judged. -/

namespace LineTunnel

/-- Work on a queue in place. What was done to the queue before a failure stays done. -/
abbrev Queueing (α : Type) := ExceptT Failure (StateM ByteQueue) α

theorem Queueing.run_bind {α β : Type} (m : Queueing α) (k : α → Queueing β) (q : ByteQueue) :
    (m >>= k).run q = match m.run q with
      | (.ok a, q') => (k a).run q'
      | (.error f, q') => (.error f, q') := by
  change (match m.run q with | (result, q') => (ExceptT.bindCont k result) q') = _
  rcases m.run q with ⟨f | a, q'⟩ <;> rfl

namespace ByteQueue

def reserving (n : Nat) : Queueing Unit := do
  let q ← get
  if q.capacity < q.length + n then
    if q.ceiling < q.length + n then throw (.link .bufferFull)
    let grown := q.grownCapacity (q.length + n)
    set { q with spare := q.spare ++ List.replicate (grown - q.capacity) 0 }

def appending (bs : Bytes) : Queueing Unit := do
  reserving bs.length
  modify (·.stage bs)
  modify (·.commit bs.length)

theorem run_reserving (n : Nat) (q : ByteQueue) : (reserving n).run q =
    match q.reserve n with
    | .ok r => (.ok (), r)
    | .error f => (.error f, q) := by
  unfold reserve reserving
  dsimp only
  by_cases hfit : q.length + n ≤ q.capacity
  · have hroom : ¬q.capacity < q.length + n := Nat.not_lt.2 hfit
    rw [if_pos hfit]
    change (if q.capacity < q.length + n then _ else _ : Queueing Unit) q = _
    rw [if_neg hroom]
    rfl
  · rw [if_neg hfit]
    change (if q.capacity < q.length + n then _ else _ : Queueing Unit) q = _
    rw [if_pos (Nat.lt_of_not_le hfit)]
    by_cases hfull : q.ceiling < q.length + n
    · rw [if_pos hfull, if_pos hfull]
      rfl
    · rw [if_neg hfull, if_neg hfull]
      rfl

theorem run_appending (bs : Bytes) (q : ByteQueue) : (appending bs).run q =
    match q.append bs with
    | .ok r => (.ok (), r)
    | .error f => (.error f, q) := by
  unfold append appending
  rw [Queueing.run_bind, run_reserving]
  cases q.reserve bs.length <;> rfl

end ByteQueue

namespace Socks

def Negotiation.starting (lookup : NameLookup) (me : LocalUser) (server : Server) (host : String)
    (port : UInt16) (offerUserPassword : Bool) : Queueing Negotiation :=
  match server.version with
  | .v5 => do
    ByteQueue.appending (Frame.methods offerUserPassword)
    return { stage := .v5 .methods, host, port }
  | .v4 => do
    let ip ← liftExcept (lookup.resolve host)
    let user ← liftExcept (server.userId.text me)
    ByteQueue.appending (Frame.connectByAddress ip port user)
    return { stage := .v4, host, port }

theorem Negotiation.run_starting (lookup : NameLookup) (me : LocalUser) (server : Server)
    (host : String) (port : UInt16) (offer : Bool) (out : ByteQueue) :
    (starting lookup me server host port offer).run out =
      match start lookup me server host port offer out with
      | .ok (n, out') => (.ok n, out')
      | .error f => (.error f, out) := by
  unfold starting start
  cases server.version with
  | v5 =>
    dsimp only
    rw [Queueing.run_bind, ByteQueue.run_appending]
    cases out.append (Frame.methods offer) <;> rfl
  | v4 =>
    dsimp only
    rw [Queueing.run_bind]
    cases lookup.resolve host with
    | error f => rfl
    | ok ip =>
      change (liftExcept (server.userId.text me) >>= _ : Queueing Negotiation).run out = _
      rw [Queueing.run_bind]
      cases server.userId.text me with
      | error f => rfl
      | ok user =>
        change (ByteQueue.appending (Frame.connectByAddress ip port user) >>= _ :
          Queueing Negotiation).run out =
            match (out.append (Frame.connectByAddress ip port user) >>= _ :
              Except Failure (Negotiation × ByteQueue)) with
            | .ok (n, out') => _
            | .error f => _
        rw [Queueing.run_bind, ByteQueue.run_appending]
        cases out.append (Frame.connectByAddress ip port user) <;> rfl

/-- How much of what the proxy has said is gone when it is refused in a stage. The reply to the
request for the tunnel is refused before it is complete. -/
def Stage.judgedLength : Stage → Nat
  | v4 => Reply.lengthV4
  | v5 .methods => 2
  | v5 .userPassword => 2
  | v5 .connect => 0

namespace Negotiation

variable {canPrompt : Bool} {n : Negotiation} {bs : Bytes}

theorem taken_of_reactRequest_eq_refuse {taken : Nat} {cause : SocksFailure}
    (h : n.reactRequest = .refuse taken cause) : taken = 2 := by
  have htaken := n.taken_reactRequest
  rwa [h] at htaken

theorem taken_of_react_eq_refuse {taken : Nat} {cause : SocksFailure}
    (h : n.react canPrompt bs = .refuse taken cause) : taken = n.stage.judgedLength := by
  unfold react at h
  split at h
  · next hstage =>
    rw [hstage]
    unfold reactV4 at h
    repeat' split at h
    all_goals cases h
    rfl
  · next hstage =>
    rw [hstage]
    unfold reactMethods at h
    repeat' split at h
    all_goals first | exact taken_of_reactRequest_eq_refuse h | cases h
    all_goals rfl
  · next hstage =>
    rw [hstage]
    unfold reactUserPassword at h
    repeat' split at h
    all_goals first | exact taken_of_reactRequest_eq_refuse h | cases h
    all_goals rfl
  · next hstage =>
    rw [hstage]
    unfold reactConnect at h
    repeat' split at h
    all_goals cases h
    rfl

theorem judgedLength_of_react_eq_request (h : n.react canPrompt bs = .request) :
    n.stage.judgedLength = 2 := by
  have hasked := (of_react_eq_request h).1
  cases hstage : n.stage with
  | v4 =>
    rw [hstage] at hasked
    cases hasked
  | v5 stage =>
    rw [hstage] at hasked
    cases stage with
    | methods | userPassword => rfl
    | connect => cases hasked

end Negotiation

namespace Exchange

variable {x x' : Exchange} {f : Failure}

theorem step_of_error {canPrompt : Bool} (h : x.step canPrompt = (.error f, x')) :
    x.negotiation.stage.judgedLength ≤ x.inbound.length ∧
      x' = x.skip x.negotiation.stage.judgedLength := by
  have htaken := x.negotiation.taken_react_le canPrompt x.inbound.bytes
  rw [step_eq_follow] at h
  cases hreact : x.negotiation.react canPrompt x.inbound.bytes with
  | wait | prompt | grant =>
    rw [hreact] at h
    cases h
  | refuse taken cause =>
    rw [hreact] at h htaken
    cases h
    rw [← Negotiation.taken_of_react_eq_refuse hreact]
    exact ⟨htaken, rfl⟩
  | request =>
    rw [hreact] at h htaken
    rw [Negotiation.judgedLength_of_react_eq_request hreact]
    rcases requestTunnel_cases (x.skip 2) with ⟨f', herror⟩ | ⟨outbound, -, hok⟩
    · cases herror.symm.trans h
      exact ⟨htaken, rfl⟩
    · exact nomatch hok.symm.trans h

theorem submit_of_error {user password : String} (h : x.submit user password = (.error f, x')) :
    x' = x := by
  cases hawaiting : x.negotiation.awaiting with
  | false =>
    cases (submit_of_not_awaiting user password hawaiting).symm.trans h
    rfl
  | true =>
    rcases submit_of_awaiting user password hawaiting with
      ⟨f', -, herror⟩ | ⟨frame, outbound, -, -, hok⟩
    · cases herror.symm.trans h
      rfl
    · exact nomatch hok.symm.trans h

end Exchange

/-- Whichever of its operations fails, on queues of any size, the queue of requests and the
negotiation are exactly as before, and of the replies at most the one that was judged is gone. -/
theorem kept_of_error (x x' : Exchange) (f : Failure) :
    (∀ lookup me server host port offer,
      Negotiation.start lookup me server host port offer x.outbound = .error f →
        (Negotiation.starting lookup me server host port offer).run x.outbound =
          (.error f, x.outbound)) ∧
    (∀ canPrompt, x.step canPrompt = (.error f, x') →
      x'.outbound = x.outbound ∧ x'.negotiation = x.negotiation ∧
        x.negotiation.stage.judgedLength ≤ x.inbound.length ∧
        x'.inbound.bytes = x.inbound.bytes.drop x.negotiation.stage.judgedLength) ∧
    ∀ user password, x.submit user password = (.error f, x') →
      x'.outbound = x.outbound ∧ x'.negotiation = x.negotiation ∧ x'.inbound = x.inbound := by
  refine ⟨?start, ?step, ?submit⟩
  case start =>
    intro lookup me server host port offer h
    rw [Negotiation.run_starting, h]
  case step =>
    intro canPrompt h
    obtain ⟨hlength, rfl⟩ := Exchange.step_of_error h
    exact ⟨rfl, rfl, hlength, rfl⟩
  case submit =>
    intro user password h
    obtain rfl := Exchange.submit_of_error h
    exact ⟨rfl, rfl, rfl⟩

theorem kept_of_error_without_room :
    let server : Server := { name := "p", port := 1080, version := .v5 }
    let out : ByteQueue := ⟨[9], [0, 0], 3⟩
    let n : Negotiation := { stage := .v5 .methods, host := "host", port := 80 }
    let asked : Negotiation := { n with stage := .v5 .userPassword, awaiting := true }
    let x : Exchange := ⟨n, ⟨[5, 0, 7], [], 32768⟩, out⟩
    let y : Exchange := ⟨asked, ⟨[1], [], 32768⟩, out⟩
    (Negotiation.starting (fun _ => .error .hostNotFound) ⟨0, none⟩ server "host" 80 true).run out =
        (.error (.link .bufferFull), out) ∧
      (∃ x', x.step true = (.error (.link .bufferFull), x') ∧ x'.outbound = out ∧
        x'.negotiation = n ∧ x'.inbound.bytes = [7]) ∧
      ∃ y', y.submit "user" "word" = (.error (.link .bufferFull), y') ∧ y'.outbound = out ∧
        y'.negotiation = asked ∧ y'.inbound = y.inbound := by
  intro server out n asked x y
  have hstep : x.step true = (.error (.link .bufferFull), x.skip 2) := by rfl
  have hsubmit : y.submit "user" "word" = (.error (.link .bufferFull), y) := by rfl
  obtain ⟨hout, hn, -, hinbound⟩ := (kept_of_error x _ _).2.1 true hstep
  refine ⟨(kept_of_error x x _).1 _ _ server "host" 80 true ?_, ⟨_, hstep, hout, hn, hinbound⟩,
    _, hsubmit, (kept_of_error y _ _).2.2 "user" "word" hsubmit⟩
  cbv

end Socks

end LineTunnel
