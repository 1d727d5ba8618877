import LineTunnel.Proofs.Connection.Sound
import LineTunnel.Proofs.Connection.Hearing
import LineTunnel.Proofs.Connection.Outgoing

/-! The moment in which the connect to a proxy completes: at once, or in a later service call.
Nothing was heard or sent by then, and what waits to be sent is what the negotiation opens with. -/

namespace LineTunnel

open Socks (Negotiation)

variable {σ : Type}

namespace Connection

theorem of_startConnect_eq_negotiating {machine : Machine σ} {bindAddress : Option String}
    {host : String} {port : UInt16} {c : Connection σ} {n : Negotiation}
    (hanswer : (c.startConnect machine bindAddress host port).answer = .ok ())
    (h : (c.startConnect machine bindAddress host port).after.phase = .negotiating n) :
    (c.startConnect machine bindAddress host port).after.Stands (.waiting n []) ∧
      (n.stage.hasAsked = false →
        (c.startConnect machine bindAddress host port).after.handshake.length ≤
          Socks.Frame.maxMethods) := by
  obtain ⟨watcher, opening, phase, handshake, dialed, realHost, realPort, -, hphase, hcases,
    hafter⟩ := startConnect_eq_ok hanswer
  refine ⟨?_, fun hasked => ?_⟩
  · rw [hafter] at h ⊢
    exact ⟨rfl, rfl, h, rfl⟩
  · rw [hafter] at h ⊢
    change phase = .negotiating n at h
    have hopening : opening = some n := by
      rcases hphase with rfl | rfl
      · rw [← Phase.negotiation?_opened opening, h]
        rfl
      · cases h
    rcases hcases with ⟨-, hnone, -⟩ | ⟨server, m, -, hsome, hstart⟩
    · exact nomatch hnone.symm.trans hopening
    · cases hsome.symm.trans hopening
      have hlength := (Negotiation.start_suits hstart).2.2 hasked
      rwa [ByteQueue.length_reset, Nat.zero_add] at hlength

variable [Transport σ]

theorem of_service_eq_negotiating {c : Connection σ} {opening : Option Negotiation}
    {n : Negotiation} {ready : Readiness} (hphase : c.phase = .unconnected opening)
    (h : (c.service ready).after.phase = .negotiating n) :
    opening = some n ∧ (c.service ready).after.isActive = true ∧
      (c.service ready).after.failure = none ∧ (c.service ready).after.inbound = c.inbound ∧
      (c.service ready).after.handshake = c.handshake := by
  cases hs : c.socket with
  | none =>
    rw [service_closed hs] at h
    exact nomatch hphase.symm.trans h
  | some s =>
    obtain ⟨result, c', waiting, told, hwork, hquiet, hservice⟩ := service_work hs ready
    obtain ⟨socket, failure, watcher, hfinish⟩ := c'.finish_eq result waiting hquiet
    have hc' : c'.phase = .negotiating n := by
      rw [hservice, hfinish] at h
      exact h
    cases hwork with
    | known | exceptional | waiting | refused => exact nomatch hphase.symm.trans hc'
    | unsent _ hopened _ | sent _ hopened _ _ | read _ hopened _ _ =>
      rw [hphase] at hopened
      cases hopened
    | @opened opening' hf hunopened _ =>
      cases hphase.symm.trans hunopened
      cases opening with
      | none => cases hc'
      | some m =>
        cases hc'
        obtain ⟨watcher', told', -, hsettle⟩ := Connection.settle_eq _ waiting hquiet
        rw [hservice, finish, hsettle]
        exact ⟨rfl, rfl, hf, rfl, rfl⟩

end Connection

namespace Run

variable [Transport σ]

inductive Completed : Run σ → Prop
  | atOnce {framing : Framing} {server : Option Socks.Server}
      {ops : List (Operation (Recorded σ))} {machine : Machine σ} {bindAddress : Option String}
      {host : String} {port : UInt16} {r : Run σ} :
      dial machine bindAddress host port ((Connection.create framing server).after ops) = some r →
      Completed r
  | later {framing : Framing} {server : Option Socks.Server}
      {ops : List (Operation (Recorded σ))} {machine : Machine σ} {bindAddress : Option String}
      {host : String} {port : UInt16} {r : Run σ} {ms : List (Move σ)}
      {opening : Option Negotiation} {ready : Readiness} :
      dial machine bindAddress host port ((Connection.create framing server).after ops) = some r →
      (r.run ms).connection.phase = .unconnected opening →
      Completed ((r.run ms).step (.service ready))

structure Poised (r : Run σ) (n : Negotiation) : Prop where
  sound : r.connection.Sound
  stands : r.connection.Stands (.waiting n [])
  handshake : n.stage.hasAsked = false →
    r.connection.handshake.length ≤ Socks.Frame.maxMethods
  sent : ∃ f requests messages, Sent true f r requests messages

theorem sound_dial {framing : Framing} {server : Option Socks.Server}
    {ops : List (Operation (Recorded σ))} {machine : Machine σ} {bindAddress : Option String}
    {host : String} {port : UInt16} {r : Run σ}
    (h : dial machine bindAddress host port ((Connection.create framing server).after ops) =
      some r) : r.connection.Sound := by
  rw [connection_dial h]
  exact ((Connection.sound_create framing server).after ops).apply _

theorem sound_run {r : Run σ} (h : r.connection.Sound) (ms : List (Move σ)) :
    (r.run ms).connection.Sound := by
  rw [connection_run]
  exact h.after _

theorem Completed.poised {r : Run σ} {n : Negotiation} (h : r.Completed)
    (hphase : r.connection.phase = .negotiating n) : r.Poised n := by
  cases h with
  | @atOnce framing server ops machine bindAddress host port _ hdial =>
    have hanswer := (dial_isSome_iff machine bindAddress host port _).1 (by rw [hdial]; rfl)
    have hconnection := connection_dial hdial
    rw [hconnection] at hphase
    obtain ⟨hstands, hhandshake⟩ := Connection.of_startConnect_eq_negotiating hanswer hphase
    refine ⟨sound_dial hdial, ?_, ?_, _, _, _, (fresh_dial hdial).sent nofun⟩
    · rw [hconnection]
      exact hstands
    · rw [hconnection]
      exact hhandshake
  | @later framing server ops machine bindAddress host port r ms opening ready hdial hunopened =>
    have hsound := sound_run (sound_dial hdial) ms
    have hopening := hsound.unopened opening hunopened
    obtain ⟨hsome, hactive, hfailure, hinbound, hhandshake⟩ :=
      Connection.of_service_eq_negotiating hunopened hphase
    have hfresh : Sent true r.connection.framing r [] [] := (fresh_dial hdial).sent nofun
    obtain ⟨requests, messages, hsent⟩ := hfresh.run (ms ++ [.service ready])
    rw [run_append] at hsent
    refine ⟨hsound.service ready, ⟨hactive, hfailure, hphase, ?_⟩, fun hasked => ?_, _, _, _, hsent⟩
    · change ((r.run ms).connection.service ready).after.inbound.bytes = []
      rw [hinbound]
      exact hopening.inbound
    · change ((r.run ms).connection.service ready).after.handshake.length ≤ Socks.Frame.maxMethods
      rw [hhandshake]
      exact hopening.handshake n hsome hasked

end Run

end LineTunnel
