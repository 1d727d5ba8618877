import LineTunnel.Toml.Reader
import LineTunnel.Toml.Writer
import LineTunnel.Proofs.Toml.Text
import LineTunnel.Proofs.Toml.Scalar

/-! A document that was written is read back as the tables it was written from: tables of different
names, with entries of different names, where every name is a bare word and every number has 64
bits. -/

namespace LineTunnel.Toml

open Reader

/-! ### Tables -/

namespace Table

variable {t : Table} {name : String}

theorem get?_eq_none (h : name ∉ t.map Prod.fst) : t.get? name = none := by
  refine List.lookup_eq_none_iff.2 fun e he => ?_
  rw [bne_iff_ne]
  rintro rfl
  exact h (List.mem_map_of_mem he)

theorem set_of_notMem (h : name ∉ t.map Prod.fst) (v : Value) :
    t.set name v = t ++ [(name, v)] := by
  unfold set
  rw [get?_eq_none h]
  rfl

theorem get?_append_last (h : name ∉ t.map Prod.fst) (v : Value) :
    get? (t ++ [(name, v)]) name = some v := by
  have hfirst : List.lookup name t = none := get?_eq_none h
  unfold get?
  rw [List.lookup_append, hfirst, List.lookup_cons_self]
  rfl

theorem set_append_last (h : name ∉ t.map Prod.fst) (v w : Value) :
    set (t ++ [(name, v)]) name w = t ++ [(name, w)] := by
  have hsame : t.map (fun e => if e.1 == name then (name, w) else e) = t := by
    refine (List.map_congr_left fun e he => if_neg ?_).trans (List.map_id t)
    rw [beq_iff_eq]
    rintro rfl
    exact h (List.mem_map_of_mem he)
  unfold set
  rw [get?_append_last h, Option.isSome_some, if_pos rfl, List.map_append, hsame]
  simp

theorem openTable_of_notMem (h : name ∉ t.map Prod.fst) :
    t.openTable [] name = some (t ++ [(name, .table .header [])]) := by
  unfold openTable atHeader
  rw [get?_eq_none h]
  exact congrArg some (set_of_notMem h _)

theorem atHeader_last {entries inner : Table} (h : name ∉ t.map Prod.fst)
    {change : Table → Option Table} (hchange : change entries = some inner) :
    atHeader change [name] (t ++ [(name, .table .header entries)]) =
      some (t ++ [(name, .table .header inner)]) := by
  unfold atHeader
  rw [get?_append_last h]
  change (do
    let inner ← change entries
    some (set (t ++ [(name, Value.table .header entries)]) name (.table .header inner))) = _
  rw [hchange]
  exact congrArg some (set_append_last h _ _)

theorem addEntry_of_notMem (h : name ∉ t.map Prod.fst) (v : Value) :
    addEntry [name] v t = some (t ++ [(name, v)]) := by
  change add v name [] t = _
  unfold add
  rw [get?_eq_none h, ← set_of_notMem h]
  rfl

end Table

/-! ### Keys -/

def IsBare (name : String) : Prop := name.toList ≠ [] ∧ name.toList.all isBareKeyChar = true

instance (name : String) : Decidable (IsBare name) := inferInstanceAs (Decidable (_ ∧ _))

theorem isBlank_of_isBareKeyChar {c : Char} (h : isBareKeyChar c = true) :
    Text.isBlank c = false := by
  unfold Text.isBlank
  rw [Bool.or_eq_false_iff, beq_eq_false_iff_ne, beq_eq_false_iff_ne]
  refine ⟨?_, ?_⟩
  all_goals
    rintro rfl
    exact absurd h (by decide)

theorem skipBlanks_cons {c : Char} (h : Text.isBlank c = false) (r : List Char) :
    skipBlanks (c :: r) = c :: r :=
  List.dropWhile_cons_of_neg (by simp [h])

theorem IsBare.of_mem {name : String} (h : IsBare name) :
    ∀ c ∈ name.toList, isBareKeyChar c = true :=
  List.all_eq_true.1 h.2

theorem IsBare.exists_cons {name : String} (h : IsBare name) :
    ∃ c cs, name.toList = c :: cs ∧ isBareKeyChar c = true := by
  obtain ⟨c, cs, heq⟩ := List.exists_cons_of_ne_nil h.1
  exact ⟨c, cs, heq, h.of_mem c (heq ▸ List.mem_cons_self)⟩

theorem IsBare.append_ne {name : String} (h : IsBare name) {d : Char} (hd : isBareKeyChar d = false)
    (r r' : List Char) : name.toList ++ r ≠ d :: r' := by
  obtain ⟨c, cs, hname, hc⟩ := h.exists_cons
  rw [hname]
  intro heq
  rw [(List.cons.inj heq).1, hd] at hc
  cases hc

theorem skipBlanks_bare {name : String} (h : IsBare name) (r : List Char) :
    skipBlanks (name.toList ++ r) = name.toList ++ r := by
  obtain ⟨c, cs, hname, hc⟩ := h.exists_cons
  rw [hname]
  exact skipBlanks_cons (isBlank_of_isBareKeyChar hc) _

theorem keyPart_bare {name : String} (h : IsBare name) {c : Char} (hc : isBareKeyChar c = false)
    (r : List Char) : keyPart (name.toList ++ c :: r) = some (name, c :: r) := by
  obtain ⟨htake, hdrop⟩ := Scalar.takeWhile_dropWhile h.of_mem hc r
  unfold keyPart
  rw [htake, hdrop]
  split
  · next heq => exact absurd heq h.1
  · rw [String.ofList_toList]

theorem key_bare {name : String} (h : IsBare name) {c d : Char} {r r' : List Char}
    (hc : isBareKeyChar c = false) (hskip : skipBlanks (c :: r) = d :: r') (hd : d ≠ '.') :
    key depthLimit (name.toList ++ c :: r) = some ([name], d :: r') := by
  unfold depthLimit key
  rw [skipBlanks_bare h, keyPart_bare h hc, Option.bind_eq_bind, Option.bind_some]
  dsimp only
  rw [hskip]
  split
  · next heq => exact absurd (List.cons.inj heq).1 hd
  · rfl

/-! ### Values -/

theorem value_text {c : Char} (hc : c = '"' ∨ c = '\'') (limit : Nat) {r rest : List Char}
    {text : String} (hread : Text.read (c :: r) = some (text.toList, rest)) :
    Reader.value limit (c :: r) = some (.string text, rest) := by
  have hvalue : Reader.value limit (c :: r) =
      (Text.read (c :: r)).map fun t => (.string (String.ofList t.1), t.2) := by
    rcases hc with rfl | rfl
    · cases limit <;> rfl
    · cases limit <;> rfl
  rw [hvalue, hread]
  exact congrArg (fun text => some (Value.string text, rest)) String.ofList_toList

theorem value_word {word : List Char} (hne : word ≠ [])
    (h : ∀ c ∈ word, Scalar.isWordChar c = true) (limit : Nat) (r : List Char) :
    Reader.value limit (word ++ r) = Scalar.read (word ++ r) := by
  obtain ⟨c, cs, rfl⟩ := List.exists_cons_of_ne_nil hne
  have hother : ∀ d, Scalar.isWordChar d = false → ∀ r', c :: (cs ++ r) ≠ d :: r' := by
    rintro d hd r' heq
    have hc := h c List.mem_cons_self
    rw [(List.cons.inj heq).1, hd] at hc
    cases hc
  rw [List.cons_append]
  unfold Reader.value
  split
  all_goals
    first
    | rfl
    | next heq => exact absurd heq (hother _ (by decide) _)

namespace Plain

def value : Plain → Value
  | string text => .string text
  | integer n => .integer n
  | boolean b => .boolean b

def Fits : Plain → Prop
  | string _ => True
  | integer n => n < 0x8000000000000000
  | boolean _ => True

@[simp] theorem fits_string (text : String) : (string text).Fits := trivial

@[simp] theorem fits_boolean (b : Bool) : (boolean b).Fits := trivial

theorem value_write {p : Plain} (h : p.Fits) (limit : Nat) (rest : List Char) :
    Reader.value limit (p.write ++ '\n' :: rest) = some (p.value, '\n' :: rest) := by
  cases p with
  | string text =>
    have hread := Text.read_write text.toList rest
    change Reader.value limit (Text.write text.toList ++ '\n' :: rest) = _
    obtain ⟨c, r, hwrite, hc⟩ := Text.exists_cons_of_write text.toList
    rw [hwrite] at hread ⊢
    exact value_text hc limit hread
  | integer n =>
    have hword : ∀ c ∈ Nat.toDigits 10 n, Scalar.isWordChar c = true :=
      fun c hc => Scalar.isWordChar_of_isDigit (Scalar.isDigit_of_mem hc)
    exact (value_word Nat.toDigits_ne_nil hword limit _).trans (Scalar.read_toDigits h rest)
  | boolean b =>
    have hall : (boolean b).write.all Scalar.isWordChar = true := by
      cases b <;> decide
    have hne : (boolean b).write ≠ [] := by
      cases b <;> decide
    have hword := List.all_eq_true.1 hall
    rw [value_word hne hword, Scalar.read_word hword]
    cases b <;> rfl

theorem exists_cons_of_write (p : Plain) :
    ∃ c r, p.write = c :: r ∧ Text.isBlank c = false := by
  cases p with
  | string text =>
    obtain ⟨c, r, hwrite, rfl | rfl⟩ := Text.exists_cons_of_write text.toList
    · exact ⟨'"', r, hwrite, rfl⟩
    · exact ⟨'\'', r, hwrite, rfl⟩
  | integer n =>
    obtain ⟨c, r, heq⟩ := List.exists_cons_of_ne_nil (Nat.toDigits_ne_nil (n := n) (b := 10))
    have hdigit := Scalar.isDigit_of_mem (n := n) (heq ▸ List.mem_cons_self)
    refine ⟨c, r, heq, isBlank_of_isBareKeyChar ?_⟩
    unfold isBareKeyChar Char.isAlphanum
    rw [hdigit]
    simp
  | boolean b =>
    cases b with
    | false => exact ⟨'f', _, rfl, rfl⟩
    | true => exact ⟨'t', _, rfl, rfl⟩

end Plain

/-! ### Statements -/

theorem lineEnd_bare {name : String} (h : IsBare name) (r : List Char) :
    lineEnd (name.toList ++ r) = none := by
  have hcomment : skipComment (name.toList ++ r) = name.toList ++ r := by
    unfold skipComment
    split
    · next heq => exact absurd heq (h.append_ne (by decide) _ _)
    · rfl
  unfold lineEnd
  rw [skipBlanks_bare h, hcomment]
  split
  · next heq => exact absurd (List.append_eq_nil_iff.1 heq).1 h.1
  · next heq => exact absurd heq (h.append_ne (by decide) _ _)
  · next heq => exact absurd heq (h.append_ne (by decide) _ _)
  · rfl

theorem statement_newline (p : Progress) (r : List Char) :
    statement p ('\n' :: r) = some (p, r) := rfl

theorem statement_header {p : Progress} {name : String} (h : IsBare name)
    (hnew : name ∉ p.table.map Prod.fst) (rest : List Char) :
    statement p ('[' :: (name.toList ++ ']' :: '\n' :: rest)) =
      some ({ table := p.table ++ [(name, .table .header [])], header := [name] }, rest) := by
  have hkey := key_bare h (c := ']') (d := ']') (r := '\n' :: rest) (by decide) rfl (by decide)
  unfold statement
  rw [skipBlanks_cons (by decide)]
  split
  · next heq => exact absurd (List.cons.inj heq).2 (h.append_ne (by decide) _ _)
  · next r _ heq =>
    cases heq
    rw [hkey]
    change (do
      let table ← Table.openTable [] name p.table
      some (({ table, header := [name] } : Progress), rest)) = _
    rw [Table.openTable_of_notMem hnew]
    rfl
  · next hother => exact absurd rfl (hother _)

theorem Section.writeEntry_append (entry : String × Plain) (rest : List Char) :
    Section.writeEntry entry ++ rest =
      entry.1.toList ++ ' ' :: '=' :: ' ' :: (entry.2.write ++ '\n' :: rest) := by
  simp [Section.writeEntry]

theorem entry_write {entry : String × Plain} (h : IsBare entry.1) (hfits : entry.2.Fits)
    (rest : List Char) :
    Reader.entry (Reader.value depthLimit) (Section.writeEntry entry ++ rest) =
      some (([entry.1], entry.2.value), '\n' :: rest) := by
  have hskip : skipBlanks (' ' :: (entry.2.write ++ '\n' :: rest)) =
      entry.2.write ++ '\n' :: rest := by
    obtain ⟨c, r, hwrite, hblank⟩ := entry.2.exists_cons_of_write
    rw [hwrite]
    exact skipBlanks_cons hblank _
  have hkey := key_bare h (c := ' ') (d := '=')
    (r := '=' :: ' ' :: (entry.2.write ++ '\n' :: rest)) (by decide) rfl (by decide)
  rw [Section.writeEntry_append]
  unfold Reader.entry
  rw [hkey]
  change (Reader.value depthLimit (skipBlanks (' ' :: (entry.2.write ++ '\n' :: rest)))).bind
    (fun t => some (([entry.1], t.1), t.2)) = _
  rw [hskip, Plain.value_write hfits]
  rfl

theorem statement_entry {p : Progress} {entry : String × Plain} (h : IsBare entry.1)
    (hfits : entry.2.Fits) {table : Table}
    (htable : p.table.atHeader (addEntry [entry.1] entry.2.value) p.header = some table)
    (rest : List Char) :
    statement p (Section.writeEntry entry ++ rest) = some ({ p with table }, rest) := by
  have hentry := entry_write h hfits rest
  rw [Section.writeEntry_append] at hentry ⊢
  unfold statement
  rw [skipBlanks_bare h]
  split
  · next heq => exact absurd heq (h.append_ne (by decide) _ _)
  · next heq => exact absurd heq (h.append_ne (by decide) _ _)
  · rw [lineEnd_bare h]
    dsimp only
    rw [hentry, Option.bind_eq_bind, Option.bind_some]
    dsimp only
    rw [htable]
    rfl

/-! ### Documents -/

inductive Reads : Progress × List Char → Progress × List Char → Prop
  | done (s : Progress × List Char) : Reads s s
  | step {s t u : Progress × List Char} : statement s.1 s.2 = some t → t.2.length < s.2.length →
      Reads t u → Reads s u

theorem Reads.trans {s t u : Progress × List Char} (h : Reads s t) (h' : Reads t u) :
    Reads s u := by
  induction h with
  | done => exact h'
  | step hstatement hlength _ ih => exact .step hstatement hlength (ih h')

theorem statements_of_reads {s : Progress × List Char} {q : Progress} (h : Reads s (q, []))
    {fuel : Nat} (hfuel : s.2.length ≤ fuel) : statements fuel s.1 s.2 = some q.table := by
  generalize htarget : (q, ([] : List Char)) = u at h
  induction h generalizing fuel with
  | done s =>
    subst htarget
    unfold statements
    rfl
  | @step s t u hstatement hlength _ ih =>
    -- a statement takes a character at least, so what is left of the fuel covers the rest
    obtain ⟨n, rfl⟩ : ∃ n, fuel = n + 1 := ⟨fuel - 1, by omega⟩
    have hrest := ih (show t.2.length ≤ n by omega) htarget
    obtain ⟨p, cs⟩ := s
    obtain ⟨c, cs, rfl⟩ : ∃ c cs', cs = c :: cs' :=
      List.exists_cons_of_length_pos (Nat.lt_of_le_of_lt (Nat.zero_le _) hlength)
    change (statement p (c :: cs)).bind (fun t => statements n t.1 t.2) = _
    rw [hstatement]
    exact hrest

namespace Section

def values (entries : List (String × Plain)) : Table := entries.map fun e => (e.1, e.2.value)

def table (s : Section) : String × Value := (s.name, .table .header (values s.entries))

structure WellFormed (s : Section) : Prop where
  name : IsBare s.name
  names : ∀ e ∈ s.entries, IsBare e.1
  fits : ∀ e ∈ s.entries, e.2.Fits
  distinct : (s.entries.map Prod.fst).Nodup

theorem reads_entries {before : Table} {name : String} (hname : name ∉ before.map Prod.fst)
    (entries : List (String × Plain)) (names : ∀ e ∈ entries, IsBare e.1)
    (fits : ∀ e ∈ entries, e.2.Fits) (read : Table)
    (distinct : (read.map Prod.fst ++ entries.map Prod.fst).Nodup) (rest : List Char) :
    Reads
      ({ table := before ++ [(name, .table .header read)], header := [name] },
        entries.flatMap writeEntry ++ rest)
      ({ table := before ++ [(name, .table .header (read ++ values entries))], header := [name] },
        rest) := by
  -- each entry goes behind those that were read, so `read` grows along the list
  induction entries generalizing read with
  | nil =>
    change Reads _ (⟨before ++ [(name, .table .header (read ++ []))], [name]⟩, rest)
    rw [List.append_nil]
    exact .done _
  | cons e entries ih =>
    have hnew : e.1 ∉ read.map Prod.fst := by
      intro hmem
      exact (List.nodup_append.1 distinct).2.2 _ hmem _ List.mem_cons_self rfl
    have hnext := ih (fun e he => names e (List.mem_cons_of_mem _ he))
      (fun e he => fits e (List.mem_cons_of_mem _ he)) (read ++ [(e.1, e.2.value)])
      (by simpa using distinct)
    have htable := Table.atHeader_last hname (Table.addEntry_of_notMem hnew e.2.value)
    have hstep := statement_entry (p := ⟨_, [name]⟩) (names e List.mem_cons_self)
      (fits e List.mem_cons_self) htable (entries.flatMap writeEntry ++ rest)
    have hlength : 0 < (writeEntry e).length :=
      List.length_pos_of_mem (a := '\n') (by simp [writeEntry])
    rw [List.flatMap_cons, List.append_assoc]
    refine .step hstep ?_ ?_
    · simpa using hlength
    · rw [List.append_assoc] at hnext
      exact hnext

theorem reads_write {s : Section} (h : s.WellFormed) {p : Progress}
    (hnew : s.name ∉ p.table.map Prod.fst) (rest : List Char) :
    Reads (p, s.write ++ rest)
      ({ table := p.table ++ [s.table], header := [s.name] }, rest) := by
  have hwrite : s.write ++ rest =
      '[' :: (s.name.toList ++ ']' :: '\n' :: (s.entries.flatMap writeEntry ++ rest)) := by
    simp [write]
  have hheader := statement_header h.name hnew (s.entries.flatMap writeEntry ++ rest)
  have hentries := reads_entries hnew s.entries h.names h.fits [] h.distinct rest
  rw [hwrite]
  refine .step hheader ?_ hentries
  simp only [List.length_cons, List.length_append]
  omega

theorem reads_sections (sections : List Section) (h : ∀ s ∈ sections, s.WellFormed)
    {p : Progress} (distinct : (p.table.map Prod.fst ++ sections.map name).Nodup) :
    ∃ q : Progress, q.table = p.table ++ sections.map table ∧
      Reads (p, ['\n'].intercalate (sections.map write)) (q, []) := by
  induction sections generalizing p with
  | nil => exact ⟨p, (List.append_nil _).symm, .done _⟩
  | cons s sections ih =>
    have hnew : s.name ∉ p.table.map Prod.fst := by
      intro hmem
      exact (List.nodup_append.1 distinct).2.2 _ hmem _ List.mem_cons_self rfl
    have hread := reads_write (h s List.mem_cons_self) hnew
    obtain ⟨q, htable, hrest⟩ := ih (fun s' hs => h s' (List.mem_cons_of_mem _ hs))
      (p := { table := p.table ++ [s.table], header := [s.name] })
      (by simpa [table] using distinct)
    refine ⟨q, by simpa using htable, ?_⟩
    cases sections with
    | nil =>
      have hlast := hread []
      rw [List.append_nil] at hlast
      rw [List.map_cons, List.map_nil, List.intercalate_singleton]
      exact hlast.trans hrest
    | cons s' sections =>
      rw [List.map_cons, List.map_cons, List.intercalate_cons_cons, List.append_assoc,
        ← List.map_cons]
      refine (hread _).trans (.step (statement_newline _ _) ?_ hrest)
      exact Nat.lt_succ_self _

theorem document_writeAll {sections : List Section} (h : ∀ s ∈ sections, s.WellFormed)
    (distinct : (sections.map name).Nodup) :
    document (writeAll sections) = some (sections.map table) := by
  obtain ⟨q, htable, hreads⟩ := reads_sections sections h (p := {}) distinct
  have hstart : ∀ r, ['\n'].intercalate (sections.map write) ≠ '\uFEFF' :: r := by
    intro r heq
    cases sections with
    | nil => cases heq
    | cons s sections =>
      cases sections with
      | nil => exact nomatch (List.cons.inj heq).1
      | cons => exact nomatch (List.cons.inj heq).1
  unfold document writeAll
  rw [String.toList_ofList]
  split
  · next heq => exact absurd heq (hstart _)
  · rw [statements_of_reads hreads (Nat.le_refl _), htable]
    rfl

end Section

end LineTunnel.Toml
