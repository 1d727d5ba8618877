import LineTunnel.Toml.Text

/-! Whatever a text holds, the form in which it is written is read back as the same text. The line
end that follows it is not touched. -/

namespace LineTunnel.Toml.Text

theorem cons_some (c : Char) {cs rest : List Char} {r : Option (List Char × List Char)}
    (h : r = some (cs, rest)) : cons (some c) r = some (c :: cs, rest) := by
  rw [h]
  rfl

/-! ### Escapes -/

theorem toNat_lt_of_isControl {c : Char} (h : isControl c = true) : c.toNat < 128 := by
  unfold isControl at h
  simp only [Bool.or_eq_true, Bool.and_eq_true, decide_eq_true_eq, beq_iff_eq] at h
  omega

theorem codePoint_hexDigit : ∀ n < 128,
    codePoint ['0', '0', hexDigit (n / 16), hexDigit (n % 16)] = some (Char.ofNat n) := by
  decide +kernel

inductive Escaped (c : Char) : List Char → Prop
  | letter {d : Char} : unescape d = some c → Escaped c ['\\', d]
  | code {a b : Char} : codePoint ['0', '0', a, b] = some c → Escaped c ['\\', 'u', '0', '0', a, b]
  | plain : isPlain c = true → c ≠ '"' → c ≠ '\\' → c ≠ '\r' → Escaped c [c]

theorem Escaped.exists_cons {c : Char} {cs : List Char} (h : Escaped c cs) :
    ∃ d r, cs = d :: r ∧ d ≠ '"' ∧ d ≠ '\n' ∧ d ≠ '\r' := by
  cases h with
  | letter => exact ⟨'\\', _, rfl, by decide, by decide, by decide⟩
  | code => exact ⟨'\\', _, rfl, by decide, by decide, by decide⟩
  | plain hplain hquote _ hreturn =>
    refine ⟨c, [], rfl, hquote, ?_, hreturn⟩
    rintro rfl
    cases hplain

theorem escaped_escape (c : Char) : Escaped c (escape c) := by
  unfold escape
  iterate 7
    split
    · next h =>
      subst h
      exact .letter rfl
  split
  · next h =>
    refine .code ?_
    rw [codePoint_hexDigit c.toNat (toNat_lt_of_isControl h), Char.ofNat_toNat]
  · next hnewline _ hreturn hquote hbackslash hcontrol =>
    exact .plain (by simp [isPlain, hcontrol, hnewline]) hquote hbackslash hreturn

theorem ne_of_unescape_eq_some {c d : Char} (h : unescape d = some c) : d ≠ 'u' ∧ d ≠ 'U' ∧
    isBlank d = false ∧ d ≠ '\n' ∧ d ≠ '\r' := by
  refine ⟨?_, ?_, ?_, ?_, ?_⟩
  · rintro rfl
    cases h
  · rintro rfl
    cases h
  · unfold isBlank
    rw [Bool.or_eq_false_iff, beq_eq_false_iff_ne, beq_eq_false_iff_ne]
    refine ⟨?_, ?_⟩
    · rintro rfl
      cases h
    · rintro rfl
      cases h
  · rintro rfl
    cases h
  · rintro rfl
    cases h

/-! ### Quotes on one line -/

theorem Escaped.readLine {c : Char} {cs : List Char} (h : Escaped c cs) (r : List Char) :
    Text.readLine (cs ++ r) = cons (some c) (Text.readLine r) := by
  cases h with
  | @letter d hd =>
    obtain ⟨hu, hU, -⟩ := ne_of_unescape_eq_some hd
    simp [Text.readLine, hu, hU, hd]
  | code hcode =>
    change cons (codePoint _) (Text.readLine r) = _
    rw [hcode]
  | plain hplain hquote hbackslash _ =>
    simp [Text.readLine, hplain, hbackslash]

theorem readLine_escapeLine (cs rest : List Char) :
    readLine (escapeLine cs ++ '"' :: rest) = some (cs, rest) := by
  induction cs with
  | nil => rfl
  | cons c cs ih =>
    unfold escapeLine at ih ⊢
    rw [List.flatMap_cons, List.append_assoc, (escaped_escape c).readLine]
    exact cons_some c ih

/-! ### Apostrophes on one line -/

theorem readLiteral_append {cs : List Char} (h : ∀ c ∈ cs, isPlain c = true ∧ c ≠ '\'')
    (rest : List Char) : readLiteral (cs ++ '\'' :: rest) = some (cs, rest) := by
  induction cs with
  | nil => rfl
  | cons c cs ih =>
    obtain ⟨⟨hplain, hother⟩, hrest⟩ := List.forall_mem_cons.1 h
    have hread : readLiteral (c :: (cs ++ '\'' :: rest)) =
        cons (some c) (readLiteral (cs ++ '\'' :: rest)) := by
      simp [readLiteral, hplain]
    exact hread.trans (cons_some c (ih hrest))

/-! ### Runs of quotes -/

inductive RunsWithin (q : Char) (k : Nat) : Nat → List Char → Prop
  | nil {run : Nat} : RunsWithin q k run []
  | more {run : Nat} {cs : List Char} : run < k → RunsWithin q k (run + 1) cs →
      RunsWithin q k run (q :: cs)
  | other {run : Nat} {c : Char} {cs : List Char} : c ≠ q → RunsWithin q k 0 cs →
      RunsWithin q k run (c :: cs)

def countRun (q : Char) (counted : Nat × Nat) (c : Char) : Nat × Nat :=
  let run := if c == q then counted.1 + 1 else 0
  (run, max run counted.2)

theorem longestRun_eq (q : Char) (cs : List Char) :
    longestRun q cs = (cs.foldl (countRun q) (0, 0)).2 := rfl

theorem le_foldl_countRun (q : Char) (cs : List Char) (counted : Nat × Nat) :
    counted.2 ≤ (cs.foldl (countRun q) counted).2 := by
  induction cs generalizing counted with
  | nil => exact Nat.le_refl _
  | cons c cs ih => exact Nat.le_trans (Nat.le_max_right ..) (ih (countRun q counted c))

theorem runsWithin_of_foldl {q : Char} {k : Nat} {cs : List Char} {counted : Nat × Nat}
    (h : (cs.foldl (countRun q) counted).2 ≤ k) : RunsWithin q k counted.1 cs := by
  induction cs generalizing counted with
  | nil => exact .nil
  | cons c cs ih =>
    rw [List.foldl_cons] at h
    have hrest := ih h
    have hbest := Nat.le_trans (le_foldl_countRun q cs (countRun q counted c)) h
    unfold countRun at hrest hbest
    by_cases hc : c = q
    · subst hc
      rw [beq_self_eq_true, if_pos rfl] at hrest hbest
      exact .more (Nat.lt_of_succ_le (Nat.le_trans (Nat.le_max_left ..) hbest)) hrest
    · rw [if_neg (by simpa using hc)] at hrest
      exact .other hc hrest

theorem runsWithin_of_longestRun {q : Char} {k : Nat} {cs : List Char} (h : longestRun q cs ≤ k) :
    RunsWithin q k 0 cs := by
  rw [longestRun_eq] at h
  exact runsWithin_of_foldl h

theorem RunsWithin.notMem {q : Char} {run : Nat} {cs : List Char} (h : RunsWithin q 0 run cs) :
    q ∉ cs := by
  induction h with
  | nil => exact List.not_mem_nil
  | more hlt => exact absurd hlt (Nat.not_lt_zero _)
  | other hother _ ih => exact fun hmem => (List.mem_cons.1 hmem).elim (fun h => hother h.symm) ih

/-! ### Quotes on several lines -/

theorem endsLine_cons {d : Char} (hblank : isBlank d = false) (hnewline : d ≠ '\n')
    (hreturn : d ≠ '\r') (r : List Char) : endsLine (d :: r) = false := by
  unfold endsLine
  rw [List.dropWhile_cons_of_neg (by simp [hblank])]
  split
  · next h => exact absurd (List.cons.inj h).1 hnewline
  · next h => exact absurd (List.cons.inj h).1 hreturn
  · rfl

theorem readLines_char {c : Char} (hquote : c ≠ '"') (hbackslash : c ≠ '\\') (hreturn : c ≠ '\r')
    (r : List Char) : readLines false (c :: r) =
      if isPlain c || c == '\n' then cons (some c) (readLines false r) else none := by
  rw [readLines]
  · rfl
  all_goals
    intros
    contradiction

theorem readLines_quote {r : List Char} (h : ∀ r', r ≠ '"' :: '"' :: r') :
    readLines false ('"' :: r) = cons (some '"') (readLines false r) := by
  rw [readLines]
  · exact fun r' => h ('"' :: '"' :: r')
  · exact fun r' => h ('"' :: r')
  · exact h

theorem Escaped.readLines {c : Char} {cs : List Char} (h : Escaped c cs) (r : List Char) :
    Text.readLines false (cs ++ r) = cons (some c) (Text.readLines false r) := by
  cases h with
  | @letter d hd =>
    obtain ⟨hu, hU, hblank, hnewline, hreturn⟩ := ne_of_unescape_eq_some hd
    have hline := endsLine_cons hblank hnewline hreturn r
    simp [Text.readLines, hu, hU, hd, hline]
  | code hcode =>
    change cons (codePoint _) (Text.readLines false r) = _
    rw [hcode]
  | plain hplain hquote hbackslash hreturn =>
    change Text.readLines false (c :: r) = _
    rw [readLines_char hquote hbackslash hreturn, hplain]
    rfl

theorem readLines_quotes {run : Nat} (hrun : run ≤ 2) {d : Char} (hd : d ≠ '"')
    {r cs rest : List Char} (h : readLines false (d :: r) = some (cs, rest)) :
    readLines false (List.replicate run '"' ++ d :: r) =
      some (List.replicate run '"' ++ cs, rest) := by
  have hone : readLines false ('"' :: d :: r) = some ('"' :: cs, rest) := by
    rw [readLines_quote fun r' heq => hd (List.cons.inj heq).1]
    exact cons_some '"' h
  match run, hrun with
  | 0, _ => exact h
  | 1, _ => exact hone
  | 2, _ =>
    change readLines false ('"' :: '"' :: d :: r) = _
    rw [readLines_quote fun r' heq => hd (List.cons.inj (List.cons.inj heq).2).1]
    exact cons_some '"' hone

theorem readLines_escapeLines (cs rest : List Char) {run : Nat} (hrun : run ≤ 2) :
    readLines false (List.replicate run '"' ++
        (escapeLines run cs ++ '"' :: '"' :: '"' :: '\n' :: rest)) =
      some (List.replicate run '"' ++ cs, '\n' :: rest) := by
  induction cs generalizing run with
  | nil =>
    match run, hrun with
    | 0, _ => rfl
    | 1, _ => rfl
    | 2, _ => rfl
  | cons c cs ih =>
    have hnext : readLines false (escapeLines 0 cs ++ '"' :: '"' :: '"' :: '\n' :: rest) =
        some (cs, '\n' :: rest) := ih (Nat.zero_le 2)
    unfold escapeLines
    split
    · next hc =>
      subst hc
      split
      · next hlt =>
        have hmore := ih (show run + 1 ≤ 2 from hlt)
        rw [List.replicate_succ', List.append_assoc, List.append_assoc] at hmore
        exact hmore
      · refine readLines_quotes hrun (by decide) ?_
        exact (Escaped.letter rfl).readLines (c := '"') _ |>.trans (cons_some '"' hnext)
    split
    · next hc =>
      subst hc
      refine readLines_quotes hrun (by decide) ?_
      exact cons_some '\n' hnext
    · obtain ⟨d, r, hescape, hd, -⟩ := (escaped_escape c).exists_cons
      have hread := (escaped_escape c).readLines
        (escapeLines 0 cs ++ '"' :: '"' :: '"' :: '\n' :: rest)
      rw [List.append_assoc]
      rw [hescape] at hread ⊢
      exact readLines_quotes hrun hd (hread.trans (cons_some c hnext))

/-! ### Apostrophes on several lines -/

theorem readLiteralLines_char {c : Char} (hapostrophe : c ≠ '\'') (hcontrol : isControl c = false)
    (r : List Char) : readLiteralLines (c :: r) = cons (some c) (readLiteralLines r) := by
  have hreturn : c ≠ '\r' := by
    rintro rfl
    cases hcontrol
  have hheld : (isPlain c || c == '\n') = true := by
    unfold isPlain
    rw [hcontrol]
    by_cases hc : c = '\n' <;> simp [hc]
  rw [readLiteralLines]
  · rw [hheld, if_pos rfl]
  all_goals
    intros
    contradiction

theorem readLiteralLines_apostrophe {r : List Char} (h : ∀ r', r ≠ '\'' :: '\'' :: r') :
    readLiteralLines ('\'' :: r) = cons (some '\'') (readLiteralLines r) := by
  rw [readLiteralLines]
  · rfl
  · exact fun r' _ => h ('\'' :: '\'' :: r')
  · exact fun r' _ => h ('\'' :: r')
  · exact fun r' _ => h r'
  · exact nofun

theorem readLiteralLines_apostrophes {run : Nat} (hrun : run ≤ 2) {d : Char} (hd : d ≠ '\'')
    {r cs rest : List Char} (h : readLiteralLines (d :: r) = some (cs, rest)) :
    readLiteralLines (List.replicate run '\'' ++ d :: r) =
      some (List.replicate run '\'' ++ cs, rest) := by
  have hone : readLiteralLines ('\'' :: d :: r) = some ('\'' :: cs, rest) := by
    rw [readLiteralLines_apostrophe fun r' heq => hd (List.cons.inj heq).1]
    exact cons_some '\'' h
  match run, hrun with
  | 0, _ => exact h
  | 1, _ => exact hone
  | 2, _ =>
    change readLiteralLines ('\'' :: '\'' :: d :: r) = _
    rw [readLiteralLines_apostrophe fun r' heq => hd (List.cons.inj (List.cons.inj heq).2).1]
    exact cons_some '\'' hone

theorem readLiteralLines_append {cs : List Char} {run : Nat} (hrun : run ≤ 2)
    (hcs : RunsWithin '\'' 2 run cs) (hcontrols : ∀ c ∈ cs, isControl c = false)
    (rest : List Char) :
    readLiteralLines (List.replicate run '\'' ++
        (cs ++ '\'' :: '\'' :: '\'' :: '\n' :: rest)) =
      some (List.replicate run '\'' ++ cs, '\n' :: rest) := by
  induction hcs with
  | @nil run =>
    match run, hrun with
    | 0, _ => rfl
    | 1, _ => rfl
    | 2, _ => rfl
  | @more run cs hlt _ ih =>
    have hmore := ih hlt fun c hc => hcontrols c (List.mem_cons_of_mem _ hc)
    rw [List.replicate_succ', List.append_assoc, List.append_assoc] at hmore
    exact hmore
  | @other run c cs hother _ ih =>
    have hnext := ih (Nat.zero_le 2) fun d hd => hcontrols d (List.mem_cons_of_mem _ hd)
    refine readLiteralLines_apostrophes hrun hother ?_
    exact (readLiteralLines_char hother (hcontrols c List.mem_cons_self) _).trans
      (cons_some c hnext)

/-! ### All forms -/

theorem dropNewline_cons {d : Char} (hnewline : d ≠ '\n') (hreturn : d ≠ '\r') (r : List Char) :
    dropNewline (d :: r) = d :: r := by
  unfold dropNewline
  split
  · next h => exact absurd (List.cons.inj h).1 hnewline
  · next h => exact absurd (List.cons.inj h).1 hreturn
  · rfl

theorem dropNewline_lead {cs r : List Char}
    (h : '\n' ∉ cs → ∃ d r', r = d :: r' ∧ d ≠ '\n' ∧ d ≠ '\r') :
    dropNewline (lead cs ++ r) = r := by
  unfold lead
  split
  · rfl
  · next hnone =>
    obtain ⟨d, r', rfl, hnewline, hreturn⟩ := h (by simpa using hnone)
    exact dropNewline_cons hnewline hreturn r'

theorem escapeLines_starts {cs : List Char} (h : '\n' ∉ cs) (rest : List Char) :
    ∃ d r, escapeLines 0 cs ++ '"' :: rest = d :: r ∧ d ≠ '\n' ∧ d ≠ '\r' := by
  cases cs with
  | nil => exact ⟨'"', rest, rfl, by decide, by decide⟩
  | cons c cs =>
    unfold escapeLines
    split
    · next hc =>
      subst hc
      exact ⟨'"', _, rfl, by decide, by decide⟩
    split
    · next hc => exact absurd (hc ▸ List.mem_cons_self) h
    · obtain ⟨d, r, hescape, -, hnewline, hreturn⟩ := (escaped_escape c).exists_cons
      rw [hescape]
      exact ⟨d, _, rfl, hnewline, hreturn⟩

theorem literal_starts {cs : List Char} (h : '\n' ∉ cs)
    (hcontrols : ∀ c ∈ cs, isControl c = false) (rest : List Char) :
    ∃ d r, cs ++ '\'' :: rest = d :: r ∧ d ≠ '\n' ∧ d ≠ '\r' := by
  cases cs with
  | nil => exact ⟨'\'', rest, rfl, by decide, by decide⟩
  | cons c cs =>
    refine ⟨c, _, rfl, fun hc => h (hc ▸ List.mem_cons_self), ?_⟩
    rintro rfl
    exact nomatch hcontrols _ List.mem_cons_self

theorem read_quote {r : List Char} (h : ∀ r', r ≠ '"' :: '"' :: r') :
    read ('"' :: r) = readLine r := by
  unfold read
  split
  · next heq => exact absurd (List.cons.inj heq).2 (h _)
  · next heq => exact nomatch (List.cons.inj heq).1
  · rfl

theorem read_apostrophe {r : List Char} (h : ∀ r', r ≠ '\'' :: '\'' :: r') :
    read ('\'' :: r) = readLiteral r := by
  unfold read
  split
  · next heq => exact nomatch (List.cons.inj heq).1
  · next heq => exact absurd (List.cons.inj heq).2 (h _)
  · rfl

theorem escapeLine_ne (cs rest r : List Char) :
    escapeLine cs ++ '"' :: '\n' :: rest ≠ '"' :: '"' :: r := by
  cases cs with
  | nil => exact nofun
  | cons c cs =>
    obtain ⟨d, r', hescape, hd, -⟩ := (escaped_escape c).exists_cons
    unfold escapeLine
    rw [List.flatMap_cons, hescape]
    exact fun heq => hd (List.cons.inj heq).1

theorem of_form_eq_literal {cs : List Char} (h : form cs = .literal) :
    ∀ c ∈ cs, isPlain c = true ∧ c ≠ '\'' := by
  have hchosen : cs.any isControl = false ∧ cs.contains '\n' = false ∧
      longestRun '\'' cs = 0 := by
    unfold form at h
    dsimp only at h
    split at h
    · cases h
    split at h
    · next hif => simpa [and_assoc] using hif
    split at h
    · cases h
    split at h
    · cases h
    split at h <;> cases h
  obtain ⟨hcontrols, hnewline, hruns⟩ := hchosen
  intro c hc
  have hcontrol : isControl c = false := by simpa using List.any_eq_false.1 hcontrols c hc
  have hne : c ≠ '\n' := by
    rintro rfl
    exact absurd hc (by simpa using hnewline)
  refine ⟨by simp [isPlain, hcontrol, hne], ?_⟩
  rintro rfl
  exact (runsWithin_of_longestRun (Nat.le_of_eq hruns)).notMem hc

theorem of_form_eq_literalLines {cs : List Char} (h : form cs = .literalLines) :
    (∀ c ∈ cs, isControl c = false) ∧ RunsWithin '\'' 2 0 cs := by
  have hchosen : cs.any isControl = false ∧ longestRun '\'' cs ≤ 2 := by
    unfold form at h
    dsimp only at h
    split at h
    · cases h
    split at h
    · cases h
    split at h
    · cases h
    split at h
    · next hif => simpa using hif
    split at h <;> cases h
  refine ⟨fun c hc => ?_, runsWithin_of_longestRun hchosen.2⟩
  simpa using List.any_eq_false.1 hchosen.1 c hc

theorem exists_cons_of_write (cs : List Char) :
    ∃ c r, write cs = c :: r ∧ (c = '"' ∨ c = '\'') := by
  unfold write
  cases form cs with
  | quoted => exact ⟨'"', _, rfl, .inl rfl⟩
  | literal => exact ⟨'\'', _, rfl, .inr rfl⟩
  | quotedLines => exact ⟨'"', _, rfl, .inl rfl⟩
  | literalLines => exact ⟨'\'', _, rfl, .inr rfl⟩

theorem read_write (cs rest : List Char) :
    read (write cs ++ '\n' :: rest) = some (cs, '\n' :: rest) := by
  unfold write
  cases hform : form cs with
  | quoted =>
    change read ('"' :: (escapeLine cs ++ ['"'] ++ '\n' :: rest)) = _
    rw [List.append_assoc]
    exact (read_quote (escapeLine_ne cs rest)).trans (readLine_escapeLine cs _)
  | literal =>
    have hplain := of_form_eq_literal hform
    change read ('\'' :: (cs ++ ['\''] ++ '\n' :: rest)) = _
    rw [List.append_assoc]
    refine (read_apostrophe fun r heq => ?_).trans (readLiteral_append hplain _)
    cases cs with
    | nil => cases heq
    | cons c cs => exact (hplain c List.mem_cons_self).2 (List.cons.inj heq).1
  | quotedLines =>
    have hdrop : dropNewline
        (lead cs ++ (escapeLines 0 cs ++ '"' :: '"' :: '"' :: '\n' :: rest)) = _ :=
      dropNewline_lead fun hnone => escapeLines_starts hnone _
    change readLines false (dropNewline
      (lead cs ++ escapeLines 0 cs ++ ['"', '"', '"'] ++ '\n' :: rest)) = _
    rw [List.append_assoc, List.append_assoc]
    refine (congrArg (readLines false) hdrop).trans ?_
    exact readLines_escapeLines cs rest (Nat.zero_le 2)
  | literalLines =>
    obtain ⟨hcontrols, hruns⟩ := of_form_eq_literalLines hform
    have hdrop : dropNewline (lead cs ++ (cs ++ '\'' :: '\'' :: '\'' :: '\n' :: rest)) = _ :=
      dropNewline_lead fun hnone => literal_starts hnone hcontrols _
    change readLiteralLines (dropNewline
      (lead cs ++ cs ++ ['\'', '\'', '\''] ++ '\n' :: rest)) = _
    rw [List.append_assoc, List.append_assoc]
    refine (congrArg readLiteralLines hdrop).trans ?_
    exact readLiteralLines_append (Nat.zero_le 2) hruns hcontrols rest

end LineTunnel.Toml.Text
