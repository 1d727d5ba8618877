import Mathlib.Control.Monad.Basic
import LineTunnel.Proofs.Connection.Keeping
import LineTunnel.Proofs.Session.Receiving
import LineTunnel.Proofs.Session.Turns

/-! What a session reports when its connection was closed while it connected. It answers a request
for credentials after the service call in which the proxy made it, even if this call has closed the
connection; if the answer is refused, this is what is reported. -/

namespace LineTunnel

variable {σ : Type}

namespace Session

variable {s : Session σ} {turn : Turn σ} {f : Failure}

def answer (s : Session σ) (c : Connection σ) : Effect σ (Except Failure Unit) :=
  c.submit ((s.config.proxy.bind (·.authUser)).getD "")
    ((s.config.proxy.bind (·.authPassword)).getD "")

variable [Pollable σ]

def served (turn : Turn σ) (s : Session σ) : Effect σ (Option Outcome) :=
  Polling.one { s.connection with socket := s.connection.socket.map turn }

def closing? (turn : Turn σ) (s : Session σ) : Option Failure :=
  (s.served turn).answer.bind (·.failure)

structure Refused (turn : Turn σ) (s : Session σ) (f : Failure) : Prop where
  asked : (s.served turn).notices.any isPrompt = true
  awaited : (s.served turn).after.awaitingCredentials = true
  refused : (s.answer (s.served turn).after).answer = .error f

theorem pump_eq (turn : Turn σ) (s : Session σ) : (s.pump turn).connection =
    if (s.served turn).notices.any isPrompt then (s.answer (s.served turn).after).after
    else (s.served turn).after := by
  unfold pump served
  dsimp only
  split <;> rfl

theorem served_cases (turn : Turn σ) (s : Session σ) :
    s.served turn = Polling.skip { s.connection with socket := s.connection.socket.map turn } ∨
      ∃ ready, s.served turn =
        Polling.serve ready { s.connection with socket := s.connection.socket.map turn } := by
  unfold served
  rw [Polling.one_eq]
  cases Polling.ready? { s.connection with socket := s.connection.socket.map turn } with
  | none => exact .inl rfl
  | some ready => exact .inr ⟨ready, rfl⟩

omit [Pollable σ] in
theorem isActive_answer (s : Session σ) (c : Connection σ) :
    (s.answer c).after.isActive = c.isActive := by
  unfold answer
  rcases c.submit_cases ((s.config.proxy.bind (·.authUser)).getD "")
      ((s.config.proxy.bind (·.authPassword)).getD "") with
    ⟨n, frame, watcher, handshake, told, -, -, -, -, -, hsubmit⟩ |
    ⟨f, failure, watcher, told, -, -, hsubmit⟩ <;>
  · rw [hsubmit]
    rfl

theorem isActive_pump (turn : Turn σ) (s : Session σ) :
    (s.pump turn).connection.isActive = (s.served turn).after.isActive := by
  rw [pump_eq]
  split
  · exact s.isActive_answer _
  · rfl

theorem pump_of_inactive (h : s.connection.isActive = false) (turn : Turn σ) : s.pump turn = s := by
  have hsocket : s.connection.socket = none := by simpa [Connection.isActive] using h
  have hsame : { s.connection with socket := s.connection.socket.map turn } = s.connection := by
    rw [hsocket, Option.map_none, ← hsocket]
  have hserved : (s.served turn).after = s.connection ∧ (s.served turn).notices = [] := by
    rcases s.served_cases turn with hskip | ⟨ready, hserve⟩
    · rw [hskip, hsame]
      exact ⟨rfl, rfl⟩
    · rw [hserve, hsame]
      unfold Polling.serve
      rw [Connection.service_of_inactive h]
      exact ⟨rfl, rfl⟩
  have hconnection : (s.pump turn).connection = s.connection := by
    rw [pump_eq, hserved.1, hserved.2]
    rfl
  have hconfig : (s.pump turn).config = s.config := by
    unfold pump
    dsimp only
    split <;> rfl
  calc s.pump turn = ⟨(s.pump turn).config, (s.pump turn).connection⟩ := rfl
    _ = s := by rw [hconfig, hconnection]

theorem failure_of_closing (h : s.closing? turn = some f) :
    (s.served turn).after.failure = some f := by
  unfold closing? at h
  rcases s.served_cases turn with hskip | ⟨ready, hserve⟩
  · rw [hskip] at h
    cases h
  · rw [hserve] at h ⊢
    exact (Connection.closed_of_service h).2

theorem isActive_or_closing (turn : Turn σ) (h : s.connection.isActive = true) :
    (s.pump turn).connection.isActive = true ∨ ∃ f, s.closing? turn = some f := by
  rw [isActive_pump]
  unfold closing?
  rcases s.served_cases turn with hskip | ⟨ready, hserve⟩
  · rw [hskip]
    exact .inl (by simpa [Polling.skip, Connection.isActive] using h)
  · rw [hserve]
    obtain ⟨socket, hsocket⟩ := Option.isSome_iff_exists.1 h
    have hturned : ({ s.connection with socket := s.connection.socket.map turn } :
        Connection σ).socket = some (turn socket) := by
      rw [hsocket]
      rfl
    rcases Connection.service_ends hturned ready with ⟨-, hopen, -⟩ | ⟨hf, -, -, -⟩
    · exact .inl hopen
    · exact .inr ⟨_, hf⟩

theorem failure_pump_iff (h : s.closing? turn = some f) :
    (s.pump turn).connection.failure = some f ↔ ∀ g, s.Refused turn g → g = f := by
  have hfailure := failure_of_closing h
  rw [pump_eq]
  cases hasked : (s.served turn).notices.any isPrompt with
  | false =>
    refine ⟨fun _ g hrefused => ?_, fun _ => hfailure⟩
    exact nomatch hasked.symm.trans hrefused.asked
  | true =>
    rw [if_pos rfl]
    cases hawaited : (s.served turn).after.awaitingCredentials with
    | false =>
      unfold answer
      rw [Connection.submit_of_not_awaiting hawaited]
      refine ⟨fun _ g hrefused => ?_, fun _ => hfailure⟩
      exact nomatch hawaited.symm.trans hrefused.awaited
    | true =>
      rcases Connection.submit_of_awaiting hawaited ((s.config.proxy.bind (·.authUser)).getD "")
        ((s.config.proxy.bind (·.authPassword)).getD "") with ⟨hok, hsame⟩ | ⟨g, herror, hg⟩
      · refine ⟨fun _ g hrefused => ?_, fun _ => hsame.trans hfailure⟩
        exact nomatch hok.symm.trans hrefused.refused
      · refine ⟨fun hkept g' hrefused => ?_, fun hall => ?_⟩
        · cases herror.symm.trans hrefused.refused
          exact Option.some.inj (hg.symm.trans hkept)
        · exact hg.trans (congrArg some (hall g ⟨hasked, hawaited, herror⟩))

def OpenOrClosed (s : Session σ) : Prop :=
  s.connection.isActive = true ∨ ∃ (before : Session σ) (turn : Turn σ) (cause : Failure),
    before.closing? turn = some cause ∧ before.pump turn = s

theorem OpenOrClosed.pump (h : s.OpenOrClosed) (turn : Turn σ) : (s.pump turn).OpenOrClosed := by
  cases hactive : s.connection.isActive with
  | true =>
    rcases isActive_or_closing turn hactive with hopen | ⟨cause, hcause⟩
    · exact .inl hopen
    · exact .inr ⟨s, turn, cause, hcause, rfl⟩
  | false =>
    rw [pump_of_inactive hactive]
    exact h

omit [Pollable σ] in
theorem isActive_dial {machine : Machine σ} (h : (s.dial machine).1 = .ok ()) :
    (s.dial machine).2.connection.isActive = true := by
  unfold dial at h ⊢
  dsimp only at h ⊢
  cases hanswer : (s.connection.startConnect machine s.config.link.bindAddress s.config.link.host
      s.config.link.port).answer with
  | error f =>
    rw [hanswer] at h
    cases h
  | ok u =>
    obtain ⟨watcher, opening, phase, handshake, dialed, realHost, realPort, -, -, -, hafter⟩ :=
      Connection.startConnect_eq_ok hanswer
    rw [hafter]
    rfl

omit [Pollable σ] in
theorem closed_of_dialed? (h : s.dialed? = some (.error (.link f))) :
    s.connection.isActive = false ∧ s.connection.failure = some f := by
  unfold dialed? at h
  split at h
  · cases h
  · split at h
    · cases h
    · next hactive =>
      refine ⟨by simpa using hactive, ?_⟩
      unfold failure at h
      cases hfailure : s.connection.failure with
      | none =>
        rw [hfailure] at h
        cases h
      | some f' =>
        rw [hfailure] at h
        cases h
        rfl

theorem closing_of_connect {machine : Machine σ} {turns : List (Turn σ)}
    (hdial : (s.dial machine).1 = .ok ())
    (h : (s.connect machine turns).1 = .error (.link f)) :
    ∃ (before : Session σ) (turn : Turn σ) (cause : Failure),
      before.closing? turn = some cause ∧ before.pump turn = (s.connect machine turns).2 ∧
      (before.pump turn).connection.failure = some f := by
  have hdialed : s.dial machine = (.ok (), (s.dial machine).2) := Prod.ext hdial rfl
  -- the verdict is looked at before each turn, so the closing turn is the last one
  obtain ⟨s', hs', hawait⟩ := await_eq (P := OpenOrClosed) (fun turn _ h => h.pump turn)
    (fun s => s.dialed?.map (·, s)) turns (.inl (isActive_dial hdial))
  unfold connect at h ⊢
  rw [hdialed] at h ⊢
  dsimp only at h ⊢
  rw [hawait] at h ⊢
  cases hverdict : s'.dialed? with
  | none =>
    rw [hverdict] at h
    cases h
  | some verdict =>
    rw [hverdict] at h
    obtain rfl : verdict = .error (.link f) := h
    obtain ⟨hclosed, hfailure⟩ := closed_of_dialed? hverdict
    rcases hs' with hopen | ⟨before, turn, cause, hcause, hpump⟩
    · exact nomatch hclosed.symm.trans hopen
    · exact ⟨before, turn, cause, hcause, hpump, hpump ▸ hfailure⟩

/-- The failure with which a service call closes a connection is kept, whatever is done before it is
renewed, exactly where no credentials are awaited then. An attempt of a session to connect reports
it, unless the call asked for credentials and the configured ones are refused for another reason. -/
theorem closing_kept_iff {c : Connection σ} {ready : Readiness}
    (h : (c.service ready).answer.failure = some f) :
    ((c.service ready).after.Keeps f ↔
      (c.service ready).after.awaitingCredentials = false) ∧
    ∀ (s : Session σ) (machine : Machine σ) (turns : List (Turn σ)) (reported : Failure),
      (s.dial machine).1 = .ok () →
      (s.connect machine turns).1 = .error (.link reported) →
      ∃ (before : Session σ) (turn : Turn σ) (cause : Failure),
        before.closing? turn = some cause ∧ before.pump turn = (s.connect machine turns).2 ∧
        (reported = cause ↔ ∀ g, before.Refused turn g → g = cause) := by
  obtain ⟨hclosed, hfailure⟩ := Connection.closed_of_service h
  refine ⟨Connection.keeps_iff hclosed hfailure, ?_⟩
  intro s machine turns reported hdial hconnect
  obtain ⟨before, turn, cause, hclosing, hpump, hreported⟩ := closing_of_connect hdial hconnect
  refine ⟨before, turn, cause, hclosing, hpump, ?_⟩
  rw [← failure_pump_iff hclosing, hreported]
  exact Option.some_inj.symm

def anonymous : Session Link where
  config := { proxy := some { host := "p" } }
  connection := (Connection.create ⟨10, some 13⟩
    (some { name := "p", port := 1080, version := .v5 })).setPrompter prompter

def anonymousOver (link : Link) : Session Link where
  config := anonymous.config
  connection := { anonymous.connection with
    socket := some link
    phase := .negotiating { stage := .v5 .methods, host := "127.0.0.1", port := 7902 }
    handshake := ⟨[5, 2, 0, 2], List.replicate 252 0, 65536⟩ }

theorem create_anonymous : create anonymous.config = .ok anonymous := rfl

set_option maxRecDepth 4000 in
theorem dial_anonymous (link : Link) :
    anonymous.dial (linking link) = (.ok (), anonymousOver link) := by with_unfolding_all rfl

theorem closing_kept_of_no_method :
    let c := (anonymousOver { inbox := [5, 255], finished := true }).connection
    let f : Failure := .socks .noAcceptableMethods
    (c.service .reading).answer.failure = some f ∧ (c.service .reading).after.Keeps f ∧
      (anonymous.connect (linking { inbox := [5, 255] }) [id]).1 = .error (.link f) ∧
      ∃ (before : Session Link) (turn : Turn Link) (cause : Failure),
        before.closing? turn = some cause ∧
        (f = cause ↔ ∀ g, before.Refused turn g → g = cause) := by
  intro c f
  have hanswer : (c.service .reading).answer.failure = some f := by decide +kernel
  have hawait : ((anonymousOver { inbox := [5, 255] }).await (fun s => s.dialed?.map (·, s))
      [id]).1 = some (.error (.link f)) := by decide +kernel
  have hconnect : (anonymous.connect (linking { inbox := [5, 255] }) [id]).1 =
      .error (.link f) :=
    congrArg Prod.fst (connect_of_dial (dial_anonymous _) hawait)
  obtain ⟨hkeeps, hsession⟩ := closing_kept_iff hanswer
  obtain ⟨before, turn, cause, hclosing, -, hreported⟩ :=
    hsession anonymous (linking { inbox := [5, 255] }) [id] f
      (congrArg Prod.fst (dial_anonymous _)) hconnect
  exact ⟨hanswer, hkeeps.2 (by decide +kernel), hconnect, before, turn, cause, hclosing, hreported⟩

/-- The proxy asks for credentials and closes at once. That there are none is what is reported. -/
theorem not_closing_kept_of_hasty_proxy :
    let link : Link := { inbox := [5, 2], finished := true }
    let c := (anonymousOver link).connection
    create anonymous.config = .ok anonymous ∧
      anonymous.dial (linking link) = (.ok (), anonymousOver link) ∧
      (c.service .reading).answer.failure = some (.link .closedByPeer) ∧
      (c.service .reading).after.isActive = false ∧
      ((c.service .reading).after.submit "" "").after.failure = some (.socks .userCancelled) ∧
      ¬(c.service .reading).after.Keeps (.link .closedByPeer) ∧
      (anonymousOver link).closing? id = some (.link .closedByPeer) ∧
      (anonymous.connect (linking link) [id]).1 = .error (.link (.socks .userCancelled)) := by
  intro link c
  have hfailure : ((c.service .reading).after.submit "" "").after.failure =
      some (.socks .userCancelled) := by decide +kernel
  have hawait : ((anonymousOver link).await (fun s => s.dialed?.map (·, s)) [id]).1 =
      some (.error (.link (.socks .userCancelled))) := by decide +kernel
  have hconnect : (anonymous.connect (linking link) [id]).1 =
      .error (.link (.socks .userCancelled)) :=
    congrArg Prod.fst (connect_of_dial (dial_anonymous _) hawait)
  refine ⟨create_anonymous, dial_anonymous link, by decide +kernel, by decide +kernel, hfailure,
    fun hkeeps => ?_, by decide +kernel, hconnect⟩
  have hkept := hkeeps [.submit "" ""] (by simp [Operation.renews])
  cases hfailure.symm.trans hkept

end Session

end LineTunnel
