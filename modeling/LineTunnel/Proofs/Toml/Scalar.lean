import LineTunnel.Toml.Scalar

/-! A number in decimal digits, and a boolean, are read back as they were written. -/

namespace LineTunnel.Toml.Scalar

/-! ### Digits -/

theorem toNat_of_isDigit {c : Char} (h : c.isDigit = true) : 48 ≤ c.toNat ∧ c.toNat ≤ 57 := by
  unfold Char.isDigit at h
  rw [Bool.and_eq_true, decide_eq_true_eq, decide_eq_true_eq] at h
  exact ⟨h.1, h.2⟩

theorem eq_zero_of_toNat {c : Char} (h : c.isDigit = true) (hzero : c.toNat - '0'.toNat = 0) :
    c = '0' := by
  have hrange := toNat_of_isDigit h
  change c.toNat - 48 = 0 at hzero
  rw [← Char.ofNat_toNat c, show c.toNat = 48 by omega]

theorem digitValue_of_isDigit {c : Char} (h : c.isDigit = true) :
    digitValue 10 c = some (c.toNat - '0'.toNat) := by
  have hrange : c.toNat - '0'.toNat < 10 := by
    have hbounds := toNat_of_isDigit h
    change c.toNat - 48 < 10
    omega
  unfold digitValue
  rw [if_pos h]
  dsimp only
  rw [if_pos hrange]

theorem digits_of_isDigit {cs : List Char} (hne : cs ≠ []) (h : ∀ c ∈ cs, c.isDigit = true) :
    digits 10 cs = some (cs.map fun c => c.toNat - '0'.toNat) := by
  induction cs with
  | nil => exact absurd rfl hne
  | cons c cs ih =>
    obtain ⟨hc, hcs⟩ := List.forall_mem_cons.1 h
    cases cs with
    | nil =>
      unfold digits
      rw [digitValue_of_isDigit hc]
      rfl
    | cons d cs =>
      have hd : d ≠ '_' := by
        rintro rfl
        exact absurd (hcs _ List.mem_cons_self) (by decide)
      have hrest := ih nofun hcs
      rw [digits]
      · rw [digitValue_of_isDigit hc, hrest]
        rfl
      · exact nofun
      · exact fun r heq => hd (List.cons.inj heq).1

theorem number_toDigits (n : Nat) :
    number 10 ((Nat.toDigits 10 n).map fun c => c.toNat - '0'.toNat) = n := by
  unfold number
  rw [List.foldl_map]
  exact (Nat.ofDigitChars_eq_foldl.symm).trans Nat.ofDigitChars_ten_toDigits

theorem isDigit_of_mem {n : Nat} {c : Char} (h : c ∈ Nat.toDigits 10 n) : c.isDigit = true :=
  Nat.isDigit_of_mem_toDigits (by decide) (by decide) h

theorem eq_zero_of_toDigits {n : Nat} {cs : List Char} (h : Nat.toDigits 10 n = '0' :: cs) :
    n = 0 := by
  induction n using Nat.strongRecOn generalizing cs with
  | ind n ih =>
    rw [Nat.toDigits_eq_if (by decide)] at h
    split at h
    · exact Nat.digitChar_eq_zero.1 (List.cons.inj h).1
    · next hge =>
      cases hdigits : Nat.toDigits 10 (n / 10) with
      | nil => exact absurd hdigits Nat.toDigits_ne_nil
      | cons d ds =>
        rw [hdigits] at h
        have hzero := ih (n / 10) (by omega) ((List.cons.inj h).1 ▸ hdigits)
        omega

theorem decimalDigits_toDigits (n : Nat) : decimalDigits (Nat.toDigits 10 n) =
    some ((Nat.toDigits 10 n).map fun c => c.toNat - '0'.toNat) := by
  unfold decimalDigits
  rw [digits_of_isDigit Nat.toDigits_ne_nil fun c => isDigit_of_mem]
  change (if _ then none else some _) = _
  rw [if_neg]
  rintro ⟨hhead, hlength⟩
  cases hdigits : Nat.toDigits 10 n with
  | nil => exact absurd hdigits Nat.toDigits_ne_nil
  | cons c cs =>
    rw [hdigits] at hhead hlength
    have hdigit : c.isDigit = true := isDigit_of_mem (n := n) (hdigits ▸ List.mem_cons_self)
    have hlead : Nat.toDigits 10 n = '0' :: cs := by
      rw [hdigits, eq_zero_of_toNat hdigit (Option.some.inj hhead)]
    have hzero : n = 0 := eq_zero_of_toDigits hlead
    rw [hzero] at hdigits
    cases hdigits
    exact absurd hlength (by decide)

/-! ### Words -/

theorem isWordChar_of_isDigit {c : Char} (h : c.isDigit = true) : isWordChar c = true := by
  unfold isWordChar Char.isAlphanum
  rw [h]
  simp

theorem integer?_toDigits {n : Nat} (h : n < 0x8000000000000000) :
    integer? (Nat.toDigits 10 n) = some (n : Int) := by
  have hdigit : ∀ c ∈ Nat.toDigits 10 n, c.isDigit = true := fun c => isDigit_of_mem
  have hrange : inRange (n : Int) = true := by
    unfold inRange
    rw [Bool.and_eq_true, decide_eq_true_eq, decide_eq_true_eq]
    omega
  have hsign : sign (Nat.toDigits 10 n) = (false, Nat.toDigits 10 n) := by
    unfold sign
    split
    · next heq =>
      rw [heq] at hdigit
      exact absurd (hdigit _ List.mem_cons_self) (by decide)
    · next heq =>
      rw [heq] at hdigit
      exact absurd (hdigit _ List.mem_cons_self) (by decide)
    · rfl
  unfold integer?
  split
  · next heq =>
    rw [heq] at hdigit
    exact absurd (hdigit 'x' (List.mem_cons_of_mem _ List.mem_cons_self)) (by decide)
  · next heq =>
    rw [heq] at hdigit
    exact absurd (hdigit 'o' (List.mem_cons_of_mem _ List.mem_cons_self)) (by decide)
  · next heq =>
    rw [heq] at hdigit
    exact absurd (hdigit 'b' (List.mem_cons_of_mem _ List.mem_cons_self)) (by decide)
  · rw [hsign]
    dsimp only
    rw [decimalDigits_toDigits, Option.bind_eq_bind, Option.bind_some, number_toDigits]
    rw [show signed false n = n from rfl, Option.pure_def, Option.bind_eq_bind, Option.bind_some,
      if_pos hrange]

theorem takeWhile_dropWhile {p : Char → Bool} {word : List Char} (h : ∀ c ∈ word, p c = true)
    {d : Char} (hd : p d = false) (r : List Char) :
    (word ++ d :: r).takeWhile p = word ∧ (word ++ d :: r).dropWhile p = d :: r := by
  have hstop : ¬p d = true := by simp [hd]
  refine ⟨?_, ?_⟩
  · rw [List.takeWhile_append_of_pos h, List.takeWhile_cons_of_neg hstop, List.append_nil]
  · rw [List.dropWhile_append_of_pos h, List.dropWhile_cons_of_neg hstop]

theorem read_word {word : List Char} (h : ∀ c ∈ word, isWordChar c = true) (rest : List Char) :
    read (word ++ '\n' :: rest) = (ofWord word).map (·, '\n' :: rest) := by
  obtain ⟨htake, hdrop⟩ := takeWhile_dropWhile h (d := '\n') rfl rest
  unfold read
  rw [htake, hdrop]
  rfl

theorem read_toDigits {n : Nat} (h : n < 0x8000000000000000) (rest : List Char) :
    read (Nat.toDigits 10 n ++ '\n' :: rest) = some (.integer n, '\n' :: rest) := by
  rw [read_word fun c hc => isWordChar_of_isDigit (isDigit_of_mem hc)]
  have hne : ∀ word : List Char, (∃ c ∈ word, c.isDigit = false) → Nat.toDigits 10 n ≠ word := by
    rintro word ⟨c, hc, hother⟩ rfl
    exact nomatch hother.symm.trans (isDigit_of_mem hc)
  unfold ofWord
  rw [if_neg (hne _ ⟨'t', by decide, by decide⟩), if_neg (hne _ ⟨'f', by decide, by decide⟩),
    integer?_toDigits h]
  rfl

end LineTunnel.Toml.Scalar
