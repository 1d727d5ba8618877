import LineTunnel.Proofs.Connection.Outgoing
import LineTunnel.Proofs.Socks.Frames

/-! What a version 5 proxy makes of all that it is asked on one connection. Whatever is done to the
connection, the requests that it queues are frames that end by themselves, so they come back one by
one from the bytes in which they stand together. -/

namespace LineTunnel

namespace Event

def request? : Event → Option Bytes
  | requested bs => some bs
  | _ => none

end Event

namespace Log

def frames (log : Log) : List Bytes := log.filterMap Event.request?

theorem frames_append (log log' : Log) : frames (log ++ log') = log.frames ++ log'.frames :=
  List.filterMap_append ..

theorem frames_ofRequest (bs : Bytes) : frames (ofRequest bs) = if bs = [] then [] else [bs] := by
  unfold ofRequest
  split <;> rfl

theorem flatten_frames (log : Log) : log.frames.flatten = log.requests := by
  induction log with
  | nil => rfl
  | cons e log ih =>
    cases e with
    | requested bs => exact congrArg (bs ++ ·) ih
    | queued | dropped | received | handedOut => exact ih

end Log

theorem Socks.Negotiation.follows_tunnelRequest {n : Negotiation} (h : n.tunnelRequest ≠ []) :
    (Request.tunnel n.host n.port).Follows n.tunnelRequest := by
  refine .tunnel ?_
  unfold tunnelRequest at h ⊢
  cases hframe : Frame.connectByName n.host n.port with
  | error f =>
    rw [hframe] at h
    exact absurd rfl h
  | ok frame => rfl

namespace Phase

theorem frames_asked (p p' : Phase) :
    ∃ requests, List.Forall₂ Socks.Request.Follows requests
      (Log.frames (.ofRequest (p.asked p'))) := by
  rw [Log.frames_ofRequest]
  by_cases hnone : p.asked p' = []
  · rw [if_pos hnone]
    exact ⟨[], .nil⟩
  · rw [if_neg hnone]
    unfold asked at hnone ⊢
    split at hnone
    · exact absurd rfl hnone
    · next n hn =>
      split at hnone
      · next hasked =>
        rw [if_pos hasked]
        exact ⟨_, .cons (Socks.Negotiation.follows_tunnelRequest hnone) .nil⟩
      · exact absurd rfl hnone

end Phase

variable {σ : Type}

namespace Run

theorem openingRequest_of_direct {machine : Machine σ} {host : String} {port : UInt16}
    {c : Connection (Recorded σ)} (h : c.server = none) :
    openingRequest machine host port c = [] := by
  rw [openingRequest, h]

theorem openingRequest_of_v5 {machine : Machine σ} {host : String} {port : UInt16}
    {c : Connection (Recorded σ)} {server : Socks.Server} (h : c.server = some server)
    (hversion : server.version = .v5) :
    openingRequest machine host port c = Socks.Frame.methods c.prompter.isSome := by
  simp only [openingRequest, h, Socks.openingRequest, hversion]
  rfl

structure Spelled (r : Run σ) : Prop where
  tied : r.Tied
  spelled : ∃ requests, Socks.Spells requests r.log.frames
  direct : r.log.frames = [] → r.connection.phase.negotiation? = none

theorem Begun.spelled {proxied : Bool} {r : Run σ} (h : Begun proxied r)
    (hversion : proxied = true → ∃ server, r.connection.server = some server ∧
      server.version = .v5) : r.Spelled := by
  have htied := h.fresh.tied
  have hdirect := h.direct
  cases h with
  | adopted stream c => exact ⟨htied, ⟨[], .nothing⟩, fun _ => (hdirect rfl).1⟩
  | @dialed machine bindAddress host port c r hr =>
    obtain ⟨stream, watcher, opening, phase, handshake, rfl, -⟩ := dial_eq_some hr
    dsimp only at hversion
    cases hserver : c.server with
    | none =>
      rw [hserver] at hdirect
      refine ⟨htied, ⟨[], ?_⟩, fun _ => (hdirect rfl).1⟩
      rw [openingRequest_of_direct hserver]
      exact .nothing
    | some server =>
      obtain ⟨server', hsame, hfive⟩ := hversion (by rw [hserver]; rfl)
      have hlog : Log.frames (.ofRequest (openingRequest machine host port c)) =
          [Socks.Frame.methods c.prompter.isSome] := by
        rw [openingRequest_of_v5 hsame hfive, Log.frames_ofRequest]
        exact if_neg (List.cons_ne_nil _ _)
      refine ⟨htied, ?_, fun hnone => ?_⟩
      · rw [hlog]
        exact ⟨_, .offered _ .nil⟩
      · exact nomatch hlog.symm.trans hnone

end Run

variable [Transport σ]

namespace Move

theorem follows_effect (m : Move σ) (c : Connection (Recorded σ)) :
    ∃ requests, List.Forall₂ Socks.Request.Follows requests (m.effect c).answer.frames := by
  cases m with
  | queue | next | take =>
    refine ⟨[], ?_⟩
    unfold effect
    dsimp only
    split <;> exact .nil
  | setWatcher | setPrompter | turn => exact ⟨[], .nil⟩
  | service ready => exact c.phase.frames_asked _
  | submit user password =>
    unfold effect
    dsimp only
    split
    · next frame hanswer hframe =>
      dsimp only
      rw [Log.frames_ofRequest]
      split
      · exact ⟨[], .nil⟩
      · exact ⟨_, .cons (.credentials hframe) .nil⟩
    · exact ⟨[], .nil⟩

theorem frames_effect_of_direct (m : Move σ) {c : Connection (Recorded σ)}
    (h : c.phase.negotiation? = none) : (m.effect c).answer.frames = [] := by
  cases m with
  | queue | next | take =>
    unfold effect
    dsimp only
    split <;> rfl
  | setWatcher | setPrompter | turn => rfl
  | service ready =>
    unfold effect Phase.asked
    rw [h]
    rfl
  | submit user password =>
    have hunasked : c.awaitingCredentials = false := by
      unfold Connection.awaitingCredentials
      rw [h]
      rfl
    simp only [effect, Connection.submit_of_not_awaiting hunasked]
    rfl

end Move

namespace Run

theorem Spelled.step {r : Run σ} (h : r.Spelled) (m : Move σ) : (r.step m).Spelled := by
  obtain ⟨requests, hspelled⟩ := h.spelled
  obtain ⟨events, taken, sent, messages, replies, hc⟩ := change_step h.tied m
  have hframes : (r.step m).log.frames = r.log.frames ++ (m.effect r.connection).answer.frames :=
    Log.frames_append ..
  refine ⟨hc.tied, ?spelled, fun hnone => ?direct⟩
  case spelled =>
    rw [hframes]
    by_cases hnone : r.log.frames = []
    · rw [m.frames_effect_of_direct (h.direct hnone), List.append_nil]
      exact ⟨requests, hspelled⟩
    · obtain ⟨others, hothers⟩ := m.follows_effect r.connection
      exact ⟨requests ++ others, hspelled.append hnone hothers⟩
  case direct =>
    rw [hframes] at hnone
    obtain ⟨result, -, hleads⟩ := hc.leads
    exact hleads.negotiation?_eq_none (h.direct (List.append_eq_nil_iff.1 hnone).1)

theorem Spelled.run {r : Run σ} (h : r.Spelled) (ms : List (Move σ)) : (r.run ms).Spelled := by
  induction ms generalizing r with
  | nil => exact h
  | cons m ms ih => exact ih (h.step m)

/-- Every frame says where it ends, and is made just for what it can carry. So whatever is done to a
connection, from the bytes of all its requests the proxy reads the requests that were queued, and
these bytes stand for no others. -/
theorem requests_read_of_begun {proxied : Bool} {r : Run σ} (hr : Begun proxied r)
    (hversion : proxied = true → ∃ server, r.connection.server = some server ∧
      server.version = .v5) (ms : List (Move σ)) :
    (∀ offer rest, Socks.Frame.readMethods (Socks.Frame.methods offer ++ rest) =
        some (if offer then [0, 2] else [0], rest)) ∧
      (∀ user password, (∃ frame, Socks.Frame.credentials user password = .ok frame) ↔
        user.utf8ByteSize ≤ 255 ∧ password.utf8ByteSize ≤ 255) ∧
      (∀ user password frame rest, Socks.Frame.credentials user password = .ok frame →
        Socks.Frame.readCredentials (frame ++ rest) = some ((user, password), rest)) ∧
      (∀ host port, (∃ frame, Socks.Frame.connectByName host port = .ok frame) ↔
        host.utf8ByteSize ≤ 255) ∧
      (∀ host port frame rest, Socks.Frame.connectByName host port = .ok frame →
        Socks.Frame.readByName (frame ++ rest) = some ((host, port), rest)) ∧
      (∃ sent messages, (r.run ms).socket.accepted = sent ++ messages ∧
        sent ++ (r.run ms).connection.handshake.bytes = (r.run ms).log.requests) ∧
      ∃ requests, Socks.Spells requests (r.run ms).log.frames ∧
        Socks.Frame.readRequests (r.run ms).log.requests = some requests ∧
        ∀ others frames, Socks.Spells others frames →
          frames.flatten = (r.run ms).log.requests → others = requests := by
  obtain ⟨requests, hspells⟩ := ((hr.spelled hversion).run ms).spelled
  have hread := Socks.Frame.readRequests_flatten hspells
  rw [Log.flatten_frames] at hread
  refine ⟨Socks.Frame.readMethods_methods, fun _ _ => Socks.Frame.exists_credentials_iff,
    fun _ _ _ rest h => Socks.Frame.readCredentials_append h rest,
    fun _ _ => Socks.Frame.exists_connectByName_iff,
    fun _ _ _ rest h => Socks.Frame.readByName_append h rest, ?queued, requests, hspells, hread, ?_⟩
  case queued =>
    obtain ⟨sent, messages, hsent⟩ := (hr.fresh.sent fun h => (hr.direct h).1).run ms
    exact ⟨sent, messages, hsent.accepted, hsent.handshake⟩
  intro others frames hothers hsame
  have hread' := Socks.Frame.readRequests_flatten hothers
  rw [hsame, hread] at hread'
  exact (Option.some.inj hread').symm

set_option maxRecDepth 4000 in
theorem requests_read_of_hasty_proxy :
    let c : Connection (Recorded Script) := (Connection.create ⟨10, some 13⟩
      (some { name := "p", port := 1080, version := .v5 })).setPrompter 1
    let script : Script := { reads := [.data [5, 2, 1, 0]], writes := [] }
    let r : Run Script := {
      connection := { c with
        socket := some { stream := script }
        phase := .negotiating { stage := .v5 .methods, host := "höst", port := 80 }
        handshake := ⟨[5, 2, 0, 2], List.replicate 252 0, 65536⟩ }
      socket := { stream := script }
      log := [.requested [5, 2, 0, 2]] }
    let ms : List (Move Script) :=
      [.service .reading, .service .reading, .submit "user" "word"]
    Begun true r ∧ (r.run ms).log.frames = [[5, 2, 0, 2],
        [5, 1, 0, 3, 5, 104, 195, 182, 115, 116, 0, 80],
        [1, 4, 117, 115, 101, 114, 4, 119, 111, 114, 100]] ∧
      Socks.Frame.readRequests (r.run ms).log.requests =
        some [.methods [0, 2], .tunnel "höst" 80, .credentials "user" "word"] ∧
      Socks.Frame.readCredentials [1, 1, 117, 1, 112, 5] = some (("u", "p"), [5]) ∧
      Socks.Frame.readByName [5, 1, 0, 3, 2, 195, 182, 1, 2, 3] = some (("ö", 258), [3]) := by
  intro c script r ms
  have hdial : dial (scripted script) none "höst" 80 c = some r := by with_unfolding_all rfl
  have hr : Begun true r := .dialed hdial
  have hframes : (r.run ms).log.frames = [[5, 2, 0, 2],
      [5, 1, 0, 3, 5, 104, 195, 182, 115, 116, 0, 80],
      [1, 4, 117, 115, 101, 114, 4, 119, 111, 114, 100]] := by decide +kernel
  obtain ⟨-, -, hcredentials, -, hname, -, requests, -, hread, honly⟩ :=
    requests_read_of_begun hr (fun _ => ⟨_, rfl, rfl⟩) ms
  have hqueued : Socks.Spells [.methods [0, 2], .tunnel "höst" 80, .credentials "user" "word"]
      (r.run ms).log.frames := by
    rw [hframes]
    exact .offered true (.cons (.tunnel rfl) (.cons (.credentials rfl) .nil))
  refine ⟨hr, hframes, ?_, hcredentials "u" "p" [1, 1, 117, 1, 112] [5] rfl,
    hname "ö" 258 [5, 1, 0, 3, 2, 195, 182, 1, 2] [3] rfl⟩
  rw [hread, honly _ _ hqueued (Log.flatten_frames _)]

end Run

end LineTunnel
