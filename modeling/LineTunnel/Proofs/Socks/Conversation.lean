import LineTunnel.ByteQueue.Lemmas
import LineTunnel.Socks.Negotiation

/-! What a proxy has to say before a negotiation ends in a tunnel, stage by stage, and that the
machine takes exactly these bytes: none before a reply is complete, and none of what follows it.
Beside them stands what the machine queues: the request for the tunnel, once. -/

namespace LineTunnel

theorem exists_of_bind_eq_ok {ε α β : Type} {x : Except ε α} {f : α → Except ε β} {b : β}
    (h : x >>= f = .ok b) : ∃ a, x = .ok a ∧ f a = .ok b := by
  cases x with
  | error e => cases h
  | ok a => exact ⟨a, rfl, h⟩

namespace Socks

def Stage.version : Stage → Version
  | v4 => .v4
  | v5 _ => .v5

def Stage.hasAsked : Stage → Bool
  | v5 .methods => false
  | v5 .userPassword => false
  | _ => true

def GrantsV5 (reply : Bytes) : Prop :=
  ∃ reserved kind size rest, reply = 5 :: 0 :: reserved :: kind :: size :: rest ∧
    (kind = 1 ∧ reply.length = 10 ∨ kind = 4 ∧ reply.length = 22 ∨
      kind = 3 ∧ reply.length = 7 + size.toNat)

/-- All that a proxy says when it grants a tunnel. It may ask for credentials only where someone
can be asked for them. -/
inductive Granted (canPrompt : Bool) : Version → Bytes → Prop where
  | v4 {rest : Bytes} : rest.length = 6 → Granted canPrompt .v4 (0 :: 90 :: rest)
  | v5 {reply : Bytes} : GrantsV5 reply → Granted canPrompt .v5 (5 :: 0 :: reply)
  | v5Password {reply : Bytes} {x : UInt8} : canPrompt = true → GrantsV5 reply →
      Granted canPrompt .v5 (5 :: 2 :: x :: 0 :: reply)

/-- What a proxy has said when a stage is reached. -/
inductive Heard (canPrompt : Bool) : Stage → Bytes → Prop where
  | v4 : Heard canPrompt .v4 []
  | methods : Heard canPrompt (.v5 .methods) []
  | userPassword : canPrompt = true → Heard canPrompt (.v5 .userPassword) [5, 2]
  | connect : Heard canPrompt (.v5 .connect) [5, 0]
  | connectPassword {x : UInt8} : canPrompt = true → Heard canPrompt (.v5 .connect) [5, 2, x, 0]

theorem Granted.mono {b b' : Bool} {version : Version} {bs : Bytes}
    (h : Granted b version bs) (hb : b = true → b' = true) : Granted b' version bs := by
  cases h with
  | v4 hrest => exact .v4 hrest
  | v5 hreply => exact .v5 hreply
  | v5Password hprompt hreply => exact .v5Password (hb hprompt) hreply

theorem Heard.mono {b b' : Bool} {stage : Stage} {bs : Bytes}
    (h : Heard b stage bs) (hb : b = true → b' = true) : Heard b' stage bs := by
  cases h with
  | v4 => exact .v4
  | methods => exact .methods
  | userPassword hprompt => exact .userPassword (hb hprompt)
  | connect => exact .connect
  | connectPassword hprompt => exact .connectPassword (hb hprompt)

def openingRequest (lookup : NameLookup) (me : LocalUser) (server : Server) (host : String)
    (port : UInt16) (offerUserPassword : Bool) : Except Failure Bytes :=
  match server.version with
  | .v5 => .ok (Frame.methods offerUserPassword)
  | .v4 => do
    let ip ← lookup.resolve host
    let user ← server.userId.text me
    return Frame.connectByAddress ip port user

namespace Negotiation

def tunnelRequest (n : Negotiation) : Bytes := (Frame.connectByName n.host n.port).toOption.getD []

def asked (n : Negotiation) (stage : Stage) : Bytes :=
  if !n.stage.hasAsked && stage.hasAsked then n.tunnelRequest else []

theorem asked_self (n : Negotiation) : n.asked n.stage = [] := by
  simp [asked]

theorem start_cases {lookup : NameLookup} {me : LocalUser} {server : Server} {host : String}
    {port : UInt16} {offer : Bool} {out out' : ByteQueue} {n : Negotiation}
    (h : start lookup me server host port offer out = .ok (n, out')) :
    ∃ frame, openingRequest lookup me server host port offer = .ok frame ∧
      out.append frame = .ok out' ∧
      (server.version = .v5 ∧ n = { stage := .v5 .methods, host, port } ∨
        server.version = .v4 ∧ n = { stage := .v4, host, port }) := by
  unfold start at h
  unfold openingRequest
  split at h
  · next hversion =>
    obtain ⟨q, hout, hok⟩ := exists_of_bind_eq_ok h
    cases hok
    rw [hversion]
    exact ⟨_, rfl, hout, .inl ⟨rfl, rfl⟩⟩
  · next hversion =>
    obtain ⟨ip, hip, hrest⟩ := exists_of_bind_eq_ok h
    obtain ⟨user, huser, hrest'⟩ := exists_of_bind_eq_ok hrest
    obtain ⟨q, hout, hok⟩ := exists_of_bind_eq_ok hrest'
    cases hok
    rw [hversion, hip]
    refine ⟨Frame.connectByAddress ip port user, ?_, hout, .inr ⟨rfl, rfl⟩⟩
    change (server.userId.text me >>= fun user => _) = _
    rw [huser]
    rfl

theorem asked_of_not_hasAsked {n : Negotiation} {stage : Stage} (h : stage.hasAsked = false) :
    n.asked stage = [] := by
  simp [asked, h]

end Negotiation

namespace Exchange

structure Moved (canPrompt : Bool) (x : Exchange) (taken : Bytes) (p : Except Failure Progress)
    (x' : Exchange) : Prop where
  inbound : x.inbound.bytes = taken ++ x'.inbound.bytes
  outbound : x'.outbound.bytes = x.outbound.bytes ++ x.negotiation.asked x'.negotiation.stage
  host : x'.negotiation.host = x.negotiation.host
  port : x'.negotiation.port = x.negotiation.port
  version : x'.negotiation.stage.version = x.negotiation.stage.version
  asked : x.negotiation.stage.hasAsked = true → x'.negotiation.stage.hasAsked = true
  heard : p = .ok .needMore ∨ p = .ok .credentialsRequested → ∀ {said},
    Heard canPrompt x.negotiation.stage said → Heard canPrompt x'.negotiation.stage (said ++ taken)
  granted : p = .ok .connected → ∀ {said}, Heard canPrompt x.negotiation.stage said →
    Granted canPrompt x.negotiation.stage.version (said ++ taken)
  ended : p = .ok .connected → x'.negotiation.stage.hasAsked = true

variable {canPrompt : Bool} {x x' x'' : Exchange}

theorem moved_stay (canPrompt : Bool) (x : Exchange) {p : Except Failure Progress}
    (hp : p ≠ .ok .connected) : Moved canPrompt x [] p x where
  inbound := rfl
  outbound := by rw [Negotiation.asked_self, List.append_nil]
  host := rfl
  port := rfl
  version := rfl
  asked := id
  heard _ _ h := by rwa [List.append_nil]
  granted h := absurd h hp
  ended h := absurd h hp

theorem Moved.asked_trans {taken : Bytes} {p : Except Failure Progress}
    (h : Moved canPrompt x taken p x') {stage : Stage}
    (hstage : x'.negotiation.stage.hasAsked = true → stage.hasAsked = true) :
    x.negotiation.asked stage =
      x.negotiation.asked x'.negotiation.stage ++ x'.negotiation.asked stage := by
  have hrequest : x'.negotiation.tunnelRequest = x.negotiation.tunnelRequest := by
    unfold Negotiation.tunnelRequest
    rw [h.host, h.port]
  have hasked := h.asked
  unfold Negotiation.asked
  rw [hrequest]
  cases hx : x.negotiation.stage.hasAsked <;> cases hx' : x'.negotiation.stage.hasAsked <;>
    simp_all

theorem Moved.trans {t t' : Bytes} {p : Except Failure Progress}
    (h : Moved canPrompt x t (.ok .needMore) x') (h' : Moved canPrompt x' t' p x'') :
    Moved canPrompt x (t ++ t') p x'' where
  inbound := by rw [h.inbound, h'.inbound, List.append_assoc]
  outbound := by rw [h'.outbound, h.outbound, List.append_assoc, h.asked_trans h'.asked]
  host := h'.host.trans h.host
  port := h'.port.trans h.port
  version := h'.version.trans h.version
  asked := h'.asked ∘ h.asked
  heard hp said hsaid := by
    rw [← List.append_assoc]
    exact h'.heard hp (h.heard (.inl rfl) hsaid)
  granted hp said hsaid := by
    rw [← List.append_assoc, ← h.version]
    exact h'.granted hp (h.heard (.inl rfl) hsaid)
  ended := h'.ended

theorem moved_skip (x : Exchange) (n : Nat) {p : Except Failure Progress}
    (hp : ¬(p = .ok .needMore ∨ p = .ok .credentialsRequested))
    (hgranted : p = .ok .connected → ∀ {said}, Heard canPrompt x.negotiation.stage said →
      Granted canPrompt x.negotiation.stage.version (said ++ x.inbound.bytes.take n))
    (hended : p = .ok .connected → x.negotiation.stage.hasAsked = true) :
    Moved canPrompt x (x.inbound.bytes.take n) p (x.skip n) where
  inbound := (List.take_append_drop n _).symm
  outbound := by
    change x.outbound.bytes = x.outbound.bytes ++ x.negotiation.asked x.negotiation.stage
    rw [Negotiation.asked_self, List.append_nil]
  host := rfl
  port := rfl
  version := rfl
  asked := id
  heard h := absurd h hp
  granted := hgranted
  ended := hended

theorem moved_refused (canPrompt : Bool) (x : Exchange) (n : Nat) (f : Failure) :
    Moved canPrompt x (x.inbound.bytes.take n) (.error f) (x.skip n) :=
  moved_skip x n (by simp) (by simp) (by simp)

theorem requestTunnel_cases (x : Exchange) :
    (∃ f, x.requestTunnel = (.error f, x)) ∨
      ∃ outbound, outbound.bytes = x.outbound.bytes ++ x.negotiation.tunnelRequest ∧
        x.requestTunnel = (.ok .needMore, { x with
          negotiation := { x.negotiation with stage := .v5 .connect }, outbound }) := by
  unfold requestTunnel Negotiation.tunnelRequest
  cases hframe : Frame.connectByName x.negotiation.host x.negotiation.port with
  | error f => exact .inl ⟨f, rfl⟩
  | ok frame =>
    rw [show (Except.ok frame >>= x.outbound.append) = x.outbound.append frame from rfl]
    cases hout : x.outbound.append frame with
    | error f => exact .inl ⟨f, rfl⟩
    | ok outbound => exact .inr ⟨outbound, ByteQueue.bytes_append hout, rfl⟩

theorem judgeV4_ok {version code : UInt8} (h : Reply.judgeV4 version code = .ok ()) :
    version = 0 ∧ code = 90 := by
  unfold Reply.judgeV4 at h
  split at h
  · cases h
  · split at h
    · cases h
    · simp_all

theorem moved_stepV4 (canPrompt : Bool) (hstage : x.negotiation.stage = .v4) :
    ∃ taken, Moved canPrompt x taken x.stepV4.1 x.stepV4.2 := by
  unfold stepV4
  split
  · next version code rest hbytes =>
    split
    · exact ⟨[], moved_stay canPrompt x (by simp)⟩
    · next hlength =>
      split
      · exact ⟨_, moved_refused canPrompt x _ _⟩
      · next hjudge =>
        obtain ⟨rfl, rfl⟩ := judgeV4_ok hjudge
        refine ⟨_, moved_skip x Reply.lengthV4 (by simp) ?_ fun _ => by rw [hstage]; rfl⟩
        intro _ said hsaid
        rw [hstage] at hsaid
        cases hsaid
        rw [hstage, hbytes]
        simp only [ByteQueue.length, hbytes, List.length_cons, Reply.lengthV4] at hlength
        have hrest : (rest.take 6).length = 6 := by
          rw [List.length_take]
          omega
        exact .v4 hrest
  · exact ⟨[], moved_stay canPrompt x (by simp)⟩

theorem moved_requestTunnel (hstage : x.negotiation.stage.hasAsked = false)
    (hversion : x.negotiation.stage.version = .v5)
    (hheard : ∀ {said}, Heard canPrompt x.negotiation.stage said →
      Heard canPrompt (.v5 .connect) (said ++ x.inbound.bytes.take 2)) :
    Moved canPrompt x (x.inbound.bytes.take 2) (x.skip 2).requestTunnel.1
      (x.skip 2).requestTunnel.2 := by
  obtain ⟨f, hf⟩ | ⟨outbound, hbytes, hok⟩ := requestTunnel_cases (x.skip 2)
  · rw [hf]
    exact moved_refused canPrompt x 2 f
  · rw [hok]
    refine ⟨(List.take_append_drop 2 _).symm, ?_, rfl, rfl, hversion.symm, fun _ => rfl,
      fun _ _ => hheard, by simp, by simp⟩
    change outbound.bytes = x.outbound.bytes ++ x.negotiation.asked (.v5 .connect)
    simp only [Negotiation.asked, hstage, hbytes]
    rfl

theorem moved_stepMethods (canPrompt : Bool) (hstage : x.negotiation.stage = .v5 .methods) :
    ∃ taken, Moved canPrompt x taken (x.stepMethods canPrompt).1 (x.stepMethods canPrompt).2 := by
  unfold stepMethods
  split
  · next version method rest hbytes =>
    dsimp only
    split
    · exact ⟨_, moved_refused canPrompt x _ _⟩
    · next hversion =>
      rw [Decidable.not_not] at hversion
      split
      · next hmethod =>
        refine ⟨_, moved_requestTunnel (by rw [hstage]; rfl) (by rw [hstage]; rfl) ?_⟩
        intro said hsaid
        rw [hstage] at hsaid
        cases hsaid
        rw [hbytes, hversion, hmethod]
        exact .connect
      · split
        · next hmethod =>
          refine ⟨x.inbound.bytes.take 2, ⟨(List.take_append_drop 2 _).symm, ?_, rfl, rfl, ?_, ?_,
            ?_, by simp, by simp⟩⟩
          · exact (List.append_nil _).symm.trans
              (congrArg _ (Negotiation.asked_of_not_hasAsked rfl).symm)
          · rw [hstage]
            rfl
          · rw [hstage]
            exact id
          · intro _ said hsaid
            rw [hstage] at hsaid
            cases hsaid
            rw [hbytes, hversion, hmethod.1]
            exact .userPassword hmethod.2
        · exact ⟨_, moved_refused canPrompt x _ _⟩
  · exact ⟨[], moved_stay canPrompt x (by simp)⟩

theorem moved_stepUserPassword (canPrompt : Bool)
    (hstage : x.negotiation.stage = .v5 .userPassword) :
    ∃ taken, Moved canPrompt x taken x.stepUserPassword.1 x.stepUserPassword.2 := by
  unfold stepUserPassword
  split
  · next first code rest hbytes =>
    dsimp only
    split
    · exact ⟨_, moved_refused canPrompt x _ _⟩
    · next hcode =>
      rw [Decidable.not_not] at hcode
      refine ⟨_, moved_requestTunnel (by rw [hstage]; rfl) (by rw [hstage]; rfl) ?_⟩
      intro said hsaid
      rw [hstage] at hsaid
      cases hsaid with
      | userPassword hprompt =>
        rw [hbytes, hcode]
        exact .connectPassword hprompt
  · exact ⟨[], moved_stay canPrompt x (by simp)⟩

theorem lengthV5_ok {version code kind size : UInt8} {n : Nat}
    (h : Reply.lengthV5 version code kind size = .ok n) :
    version = 5 ∧ code = 0 ∧
      (kind = 1 ∧ n = 10 ∨ kind = 4 ∧ n = 22 ∨ kind = 3 ∧ n = 7 + size.toNat) := by
  unfold Reply.lengthV5 at h
  split at h
  · cases h
  split at h
  · cases h
  split at h
  · cases h
    simp_all
  split at h
  · cases h
    simp_all
  split at h
  · cases h
    simp_all
  · cases h

theorem grantsV5_take (reserved : UInt8) {kind size : UInt8} {rest : Bytes} {n : Nat}
    (hn : kind = 1 ∧ n = 10 ∨ kind = 4 ∧ n = 22 ∨ kind = 3 ∧ n = 7 + size.toNat)
    (hle : n ≤ rest.length + 5) :
    GrantsV5 ((5 :: 0 :: reserved :: kind :: size :: rest).take n) := by
  obtain ⟨m, rfl⟩ : ∃ m, n = m + 5 := ⟨n - 5, by omega⟩
  refine ⟨reserved, kind, size, rest.take m, rfl, ?_⟩
  have hlength : ((5 :: 0 :: reserved :: kind :: size :: rest).take (m + 5)).length = m + 5 := by
    rw [List.length_take, List.length_cons, List.length_cons, List.length_cons, List.length_cons,
      List.length_cons]
    omega
  rwa [hlength]

theorem moved_stepConnect (canPrompt : Bool) (hstage : x.negotiation.stage = .v5 .connect) :
    ∃ taken, Moved canPrompt x taken x.stepConnect.1 x.stepConnect.2 := by
  unfold stepConnect
  split
  · next version code reserved kind size rest hbytes =>
    split
    · next cause hlength =>
      exact ⟨[], moved_stay canPrompt x (by simp)⟩
    · next n hlength =>
      obtain ⟨rfl, rfl, hn⟩ := lengthV5_ok hlength
      split
      · exact ⟨[], moved_stay canPrompt x (by simp)⟩
      · next hle =>
        simp only [ByteQueue.length, hbytes, List.length_cons] at hle
        have hreply := grantsV5_take reserved hn (show n ≤ rest.length + 5 by omega)
        refine ⟨_, moved_skip x n (by simp) ?_ fun _ => by rw [hstage]; rfl⟩
        intro _ said hsaid
        rw [hstage] at hsaid
        rw [hstage, hbytes]
        cases hsaid with
        | connect => exact .v5 hreply
        | connectPassword hprompt => exact .v5Password hprompt hreply
  · exact ⟨[], moved_stay canPrompt x (by simp)⟩

theorem moved_step (canPrompt : Bool) (x : Exchange) :
    ∃ taken, Moved canPrompt x taken (x.step canPrompt).1 (x.step canPrompt).2 := by
  unfold step
  split
  · next hstage => exact moved_stepV4 canPrompt hstage
  · next hstage => exact moved_stepMethods canPrompt hstage
  · next hstage => exact moved_stepUserPassword canPrompt hstage
  · next hstage => exact moved_stepConnect canPrompt hstage

theorem moved_advance (canPrompt : Bool) (x : Exchange) :
    ∃ taken, Moved canPrompt x taken (x.advance canPrompt).1 (x.advance canPrompt).2 := by
  -- all steps before the last ask for more, so what was heard by then still counts
  fun_induction advance canPrompt x with
  | case1 x x' hstep hmore ih =>
    obtain ⟨taken, htaken⟩ := moved_step canPrompt x
    rw [hstep] at htaken
    obtain ⟨rest, hrest⟩ := ih
    exact ⟨_, htaken.trans hrest⟩
  | case2 x x' hstep hdone =>
    obtain ⟨taken, htaken⟩ := moved_step canPrompt x
    rw [hstep] at htaken
    exact ⟨taken, htaken⟩
  | case3 x hdone => exact moved_step canPrompt x

theorem submit_of_not_awaiting (user password : String) (h : x.negotiation.awaiting = false) :
    x.submit user password = (.error (.socks .notAwaitingCredentials), x) := by
  unfold submit
  rw [h]
  rfl

theorem submit_of_awaiting (user password : String) (h : x.negotiation.awaiting = true) :
    (∃ f, f ≠ .socks .notAwaitingCredentials ∧ x.submit user password = (.error f, x)) ∨
      ∃ frame outbound, Frame.credentials user password = .ok frame ∧
        x.outbound.append frame = .ok outbound ∧
        x.submit user password = (.ok (), { x with
          negotiation := { x.negotiation with awaiting := false }, outbound }) := by
  unfold submit
  rw [h, if_neg (by decide)]
  split
  · exact .inl ⟨.socks .userCancelled, nofun, rfl⟩
  cases hframe : Frame.credentials user password with
  | error f =>
    refine .inl ⟨f, ?_, rfl⟩
    unfold Frame.credentials at hframe
    split at hframe <;> cases hframe
    exact nofun
  | ok frame =>
    rw [show (Except.ok frame >>= x.outbound.append) = x.outbound.append frame from rfl]
    cases hout : x.outbound.append frame with
    | error f =>
      cases ByteQueue.eq_bufferFull_of_append hout
      exact .inl ⟨.link .bufferFull, nofun, rfl⟩
    | ok outbound => exact .inr ⟨frame, outbound, rfl, hout, rfl⟩

end Exchange

end Socks

end LineTunnel
