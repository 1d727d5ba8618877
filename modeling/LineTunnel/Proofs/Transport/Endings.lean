import LineTunnel.Proofs.Transport.Attempts
import LineTunnel.Proofs.Transport.Giving

/-! What a script says before it is tried: what it gives and what it takes before it ends, and how
it ends. An interruption is no end, and a script without interruptions comes to the same. -/

namespace LineTunnel

open Transport (Ending Gives fill send)

theorem Transport.Ending.result_eq_ok {ending : Ending} :
    ending.result = .ok () ↔ ending = .blocked := by
  cases ending <;> simp [result, failure?]

def ReadEvent.ending? : ReadEvent → Option Ending
  | data _ => none
  | endOfStream => some .endOfStream
  | fail e => e.ending?

def WriteEvent.ending? : WriteEvent → Option Ending
  | accept n => if n = 0 then some .endOfStream else none
  | fail e => e.ending?

def ReadEvent.bytes : ReadEvent → Bytes
  | data bs => bs
  | endOfStream | fail _ => []

def WriteEvent.size : WriteEvent → Nat
  | accept n => n
  | fail _ => 0

def ReadEvent.isRetry : ReadEvent → Bool
  | fail e => e.ending?.isNone
  | data _ | endOfStream => false

def WriteEvent.isRetry : WriteEvent → Bool
  | fail e => e.ending?.isNone
  | accept _ => false

namespace Script

section events

variable {α : Type} {ending? : α → Option Ending} {a : α} {events : List α} {ending : Ending}

def beforeEnd (ending? : α → Option Ending) (events : List α) : List α :=
  events.takeWhile fun a => (ending? a).isNone

def endingOf (ending? : α → Option Ending) (events : List α) : Ending :=
  (events.findSome? ending?).getD .blocked

theorem beforeEnd_cons (h : ending? a = none) :
    beforeEnd ending? (a :: events) = a :: beforeEnd ending? events :=
  List.takeWhile_cons_of_pos (by rw [h]; rfl)

theorem beforeEnd_of_end (h : ending? a = some ending) : beforeEnd ending? (a :: events) = [] :=
  List.takeWhile_cons_of_neg (by rw [h]; exact Bool.false_ne_true)

theorem endingOf_cons (h : ending? a = none) :
    endingOf ending? (a :: events) = endingOf ending? events := by
  rw [endingOf, List.findSome?_cons_of_isNone (by rw [h]; rfl)]
  rfl

theorem endingOf_of_end (h : ending? a = some ending) :
    endingOf ending? (a :: events) = ending := by
  rw [endingOf, List.findSome?_cons_of_isSome (by rw [h]; rfl), h]
  rfl

end events

def contents (reads : List ReadEvent) : Bytes := reads.flatMap ReadEvent.bytes

/-- The bytes that reads could take before one of them meets an end. -/
def given (reads : List ReadEvent) : Bytes := contents (beforeEnd ReadEvent.ending? reads)

def readEnding (reads : List ReadEvent) : Ending := endingOf ReadEvent.ending? reads

/-- How many bytes writes could take before one of them meets an end. -/
def allowance (writes : List WriteEvent) : Nat :=
  (beforeEnd WriteEvent.ending? writes).foldr (·.size + ·) 0

def writeEnding (writes : List WriteEvent) : Ending := endingOf WriteEvent.ending? writes

def Filled (s : Script) : Prop := .data [] ∉ s.reads

variable {s s' : Script} {bs : Bytes} {e : StreamError} {ending : Ending} {n : Nat}

theorem gives_given (hs : s.Filled) : Gives s (given s.reads) (readEnding s.reads) := by
  induction hreads : s.reads generalizing s with
  | nil => exact gives_blocked hreads
  | cons event events ih =>
    have hrest : ∀ s' : Script, s'.reads = events →
        Gives s' (given events) (readEnding events) := by
      rintro s' rfl
      exact ih (fun hnone => hs (hreads ▸ List.mem_cons_of_mem _ hnone)) rfl
    cases hend : event.ending? with
    | none =>
      rw [given, beforeEnd_cons hend, readEnding, endingOf_cons hend]
      cases event with
      | data bs =>
        refine gives_data ?_ hreads hrest
        rintro rfl
        exact hs (hreads ▸ List.mem_cons_self)
      | endOfStream => cases hend
      | fail e => exact gives_retry hreads hend hrest
    | some ending =>
      rw [given, beforeEnd_of_end hend, readEnding, endingOf_of_end hend]
      cases event with
      | data bs => cases hend
      | endOfStream =>
        cases hend
        exact gives_endOfStream hreads
      | fail e => exact gives_ended hreads hend

theorem contents_read (s : Script) (n : Nat) :
    contents s.reads = (match (Transport.read s n).1 with
      | .ok bs => bs
      | .error _ => []) ++ contents (Transport.read s n).2.reads := by
  change contents s.reads = (match (s.read n).1 with
    | .ok bs => bs
    | .error _ => []) ++ contents (s.read n).2.reads
  obtain ⟨reads, writes⟩ := s
  cases reads with
  | nil => rfl
  | cons event events =>
    cases event with
    | data bs =>
      change bs ++ contents events = bs.take n ++
        contents (if n < bs.length then .data (bs.drop n) :: events else events)
      by_cases hpart : n < bs.length
      · rw [if_pos hpart]
        change _ = bs.take n ++ (bs.drop n ++ contents events)
        rw [← List.append_assoc, List.take_append_drop]
      · rw [if_neg hpart, List.take_of_length_le (Nat.le_of_not_lt hpart)]
    | endOfStream => rfl
    | fail e => rfl

theorem reads_eq_of_read_nil (hs : s.Filled) (hn : 0 < n) (hr : Transport.read s n = (.ok [], s')) :
    s.reads = .endOfStream :: s'.reads := by
  change s.read n = _ at hr
  obtain ⟨reads, writes⟩ := s
  cases reads with
  | nil => cases hr
  | cons event events =>
    cases event with
    | data bs =>
      have hnone : bs.take n = [] := Except.ok.inj (congrArg Prod.fst hr)
      rcases List.take_eq_nil_iff.1 hnone with hzero | hempty
      · omega
      · exact absurd (hempty ▸ List.mem_cons_self) hs
    | endOfStream =>
      cases hr
      rfl
    | fail e => cases hr

def withoutRetries (s : Script) : Script :=
  ⟨s.reads.filter fun event => !event.isRetry, s.writes.filter fun event => !event.isRetry⟩

theorem read_withoutRetries {result : Except StreamError Bytes}
    (hr : Transport.read s n = (result, s')) (hresult : ∀ e, result = .error e → e.ending? ≠ none) :
    Transport.read s.withoutRetries n = (result, s'.withoutRetries) := by
  change s.read n = _ at hr
  change s.withoutRetries.read n = _
  obtain ⟨reads, writes⟩ := s
  cases reads with
  | nil =>
    cases hr
    rfl
  | cons event events =>
    cases event with
    | data bs =>
      cases hr
      by_cases hpart : n < bs.length
      · simp [withoutRetries, read, ReadEvent.isRetry, hpart]
      · simp [withoutRetries, read, ReadEvent.isRetry, hpart]
    | endOfStream =>
      cases hr
      rfl
    | fail e =>
      cases hr
      have hkept : (ReadEvent.fail e).isRetry = false :=
        Option.isNone_eq_false_iff.2 (Option.isSome_iff_ne_none.2 (hresult e rfl))
      simp [withoutRetries, read, hkept]

theorem withoutRetries_of_read (hr : Transport.read s n = (.error e, s')) (he : e.ending? = none) :
    s.withoutRetries = s'.withoutRetries := by
  change s.read n = _ at hr
  obtain ⟨reads, writes⟩ := s
  cases reads with
  | nil =>
    cases hr
    cases he
  | cons event events =>
    cases event with
    | data bs => cases hr
    | endOfStream => cases hr
    | fail e =>
      cases hr
      have hleft : (ReadEvent.fail e).isRetry = true := Option.isNone_iff_eq_none.2 he
      simp [withoutRetries, hleft]

theorem write_withoutRetries {result : Except StreamError Nat}
    (hw : Transport.write s bs = (result, s'))
    (hresult : ∀ e, result = .error e → e.ending? ≠ none) :
    Transport.write s.withoutRetries bs = (result, s'.withoutRetries) := by
  change s.write bs = _ at hw
  change s.withoutRetries.write bs = _
  obtain ⟨reads, writes⟩ := s
  cases writes with
  | nil =>
    cases hw
    rfl
  | cons event events =>
    cases event with
    | accept n =>
      cases hw
      rfl
    | fail e =>
      cases hw
      have hkept : (WriteEvent.fail e).isRetry = false :=
        Option.isNone_eq_false_iff.2 (Option.isSome_iff_ne_none.2 (hresult e rfl))
      simp [withoutRetries, write, hkept]

theorem withoutRetries_of_write (hw : Transport.write s bs = (.error e, s'))
    (he : e.ending? = none) : s.withoutRetries = s'.withoutRetries := by
  change s.write bs = _ at hw
  obtain ⟨reads, writes⟩ := s
  cases writes with
  | nil =>
    cases hw
    cases he
  | cons event events =>
    cases event with
    | accept n => cases hw
    | fail e =>
      cases hw
      have hleft : (WriteEvent.fail e).isRetry = true := Option.isNone_iff_eq_none.2 he
      simp [withoutRetries, hleft]

theorem write_cases {result : Except StreamError Nat} (hw : Transport.write s bs = (result, s')) :
    s.writes = [] ∧ result = .error .blocked ∧ s' = s ∨
      (∃ n, s.writes = .accept n :: s'.writes ∧ s'.reads = s.reads ∧
        result = .ok (min n bs.length)) ∨
      ∃ e, s.writes = .fail e :: s'.writes ∧ s'.reads = s.reads ∧ result = .error e := by
  change s.write bs = _ at hw
  obtain ⟨reads, writes⟩ := s
  cases writes with
  | nil =>
    cases hw
    exact .inl ⟨rfl, rfl, rfl⟩
  | cons event events =>
    cases event with
    | accept n =>
      cases hw
      exact .inr (.inl ⟨n, rfl, rfl, rfl⟩)
    | fail e =>
      cases hw
      exact .inr (.inr ⟨e, rfl, rfl, rfl⟩)

end Script

end LineTunnel
