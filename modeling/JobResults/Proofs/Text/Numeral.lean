import JobResults.Text.Blank
import JobResults.Text.Integer

/-!
  # Numerals

  A numeral is one or more ASCII digits.  The readers of integers accept numerals, possibly behind
  a sign, whose number is in range, and nothing else (`unsigned64?_eq_some_iff`,
  `signed64?_eq_some_iff`).  A number that is written out is a numeral for itself
  (`numeral_toDigits`).
-/

namespace JobResults.Text

/-- One or more digits that spell a number. -/
structure Numeral (s : List Char) (n : Nat) : Prop where
  ne_nil : s ≠ []
  digits : ∀ c ∈ s, isDigit c = true
  value : digitsValue s = n

theorem digits?_eq_some_iff {s : List Char} {n : Nat} : digits? s = some n ↔ Numeral s n := by
  unfold digits?
  constructor
  · intro h
    split at h
    · next hdigits =>
      simp only [Bool.and_eq_true, Bool.not_eq_true', List.isEmpty_eq_false_iff,
        List.all_eq_true] at hdigits
      exact ⟨hdigits.1, hdigits.2, Option.some.inj h⟩
    · cases h
  · rintro ⟨hne, hdigits, rfl⟩
    have hall : s.all isDigit = true := List.all_eq_true.mpr hdigits
    simp [hne, hall]

theorem numeral_toDigits (n : Nat) : Numeral (Nat.toDigits 10 n) n where
  ne_nil := Nat.toDigits_ne_nil
  digits := by
    intro c hc
    have hdigit := Nat.isDigit_of_mem_toDigits (by decide) (by decide) hc
    simp only [Char.isDigit, Bool.and_eq_true, decide_eq_true_eq] at hdigit
    simp only [isDigit, Bool.and_eq_true, decide_eq_true_eq]
    exact hdigit
  value := Nat.ofDigitChars_toDigits (by decide) (by decide)

theorem toList_decimal (n : Nat) : (decimal n).toList = Nat.toDigits 10 n :=
  String.toList_ofList

/-! ### What is no digit -/

/-- The digits lie between two code points that are no white space and no capital letters. -/
theorem toNat_of_isDigit {c : Char} (h : isDigit c = true) : 48 ≤ c.toNat ∧ c.toNat ≤ 57 := by
  simp only [isDigit, Bool.and_eq_true, decide_eq_true_eq] at h
  exact h

theorem isDigit_of_large {c : Char} (h : 57 < c.toNat) : isDigit c = false := by
  refine Bool.eq_false_iff.mpr fun hdigit => ?_
  have hrange := toNat_of_isDigit hdigit
  omega

theorem isBlank_of_isDigit {c : Char} (h : isDigit c = true) : isBlank c = false := by
  have hrange := toNat_of_isDigit h
  simp only [isBlank, Bool.or_eq_false_iff, Bool.and_eq_false_iff, decide_eq_false_iff_not,
    beq_eq_false_iff_ne]
  omega

section Runs

variable {digits rest : List Char}

/-- The digits in front of a text that goes on without a digit. -/
theorem takeWhile_isDigit (hdigits : ∀ c ∈ digits, isDigit c = true)
    (hrest : rest.head?.all (!isDigit ·) = true) : (digits ++ rest).takeWhile isDigit = digits := by
  rw [List.takeWhile_append_of_pos hdigits]
  cases rest with
  | nil => simp
  | cons c rest => simp_all

theorem dropWhile_isDigit (hdigits : ∀ c ∈ digits, isDigit c = true)
    (hrest : rest.head?.all (!isDigit ·) = true) : (digits ++ rest).dropWhile isDigit = rest := by
  rw [List.dropWhile_append_of_pos hdigits]
  cases rest with
  | nil => simp
  | cons c rest => simp_all

end Runs

theorem numeral_takeWhile {s : List Char} (h : s.takeWhile isDigit ≠ []) :
    Numeral (s.takeWhile isDigit) (digitsValue (s.takeWhile isDigit)) :=
  ⟨h, fun _ hc => List.all_eq_true.mp List.all_takeWhile _ hc, rfl⟩

/-! ### Numerals with a sign -/

theorem head_ne_of_numeral {c : Char} {s : List Char} {n : Nat} (h : Numeral (c :: s) n)
    {sign : Char} (hsign : isDigit sign = false) : c ≠ sign := by
  rintro rfl
  have hdigit := h.digits c List.mem_cons_self
  rw [hsign] at hdigit
  cases hdigit

/-- The word of a number, if there is one. -/
def unsignedWord? (n : Nat) : Option UInt64 := if n < 2 ^ 64 then some (UInt64.ofNat n) else none

theorem unsigned64?_plus (rest : List Char) :
    unsigned64? ('+' :: rest) = (digits? rest).bind unsignedWord? := by
  cases h : digits? rest <;> simp only [unsigned64?, h] <;> rfl

theorem unsigned64?_bare {s : List Char} (hplus : ∀ rest, s ≠ '+' :: rest) :
    unsigned64? s = (digits? s).bind unsignedWord? := by
  cases h : digits? s <;> simp only [unsigned64?, h] <;> rfl

theorem unsignedWord?_eq_some_iff {digits : List Char} {w : UInt64} :
    (digits? digits).bind unsignedWord? = some w ↔
      ∃ n, Numeral digits n ∧ n < 2 ^ 64 ∧ w = UInt64.ofNat n := by
  simp only [Option.bind_eq_some_iff, digits?_eq_some_iff, unsignedWord?,
    Option.ite_none_right_eq_some, Option.some.injEq, @eq_comm _ w]

/-- A number below `2 ^ 64`, possibly behind a plus sign. -/
theorem unsigned64?_eq_some_iff {s : List Char} {w : UInt64} :
    unsigned64? s = some w ↔
      ∃ sign digits n, (sign = [] ∨ sign = ['+']) ∧ s = sign ++ digits ∧ Numeral digits n ∧
        n < 2 ^ 64 ∧ w = UInt64.ofNat n := by
  by_cases hplus : ∃ rest, s = '+' :: rest
  · obtain ⟨rest, rfl⟩ := hplus
    rw [unsigned64?_plus, unsignedWord?_eq_some_iff]
    constructor
    · rintro ⟨n, hn⟩
      exact ⟨['+'], rest, n, .inr rfl, rfl, hn⟩
    · rintro ⟨sign, digits, n, rfl | rfl, hs, hn, hlt, hw⟩
      · rw [List.nil_append] at hs
        subst hs
        exact absurd rfl (head_ne_of_numeral hn (by decide))
      · cases hs
        exact ⟨n, hn, hlt, hw⟩
  · rw [unsigned64?_bare (not_exists.mp hplus), unsignedWord?_eq_some_iff]
    constructor
    · rintro ⟨n, hn⟩
      exact ⟨[], s, n, .inl rfl, rfl, hn⟩
    · rintro ⟨sign, digits, n, rfl | rfl, hs, hn, hlt, hw⟩
      · rw [List.nil_append] at hs
        subst hs
        exact ⟨n, hn, hlt, hw⟩
      · exact absurd ⟨digits, hs⟩ hplus

theorem unsigned64?_of_numeral {s : List Char} {n : Nat} (h : Numeral s n) :
    unsigned64? s = if n < 2 ^ 64 then some (UInt64.ofNat n) else none := by
  split
  · next hlt => exact unsigned64?_eq_some_iff.mpr ⟨[], s, n, .inl rfl, rfl, h, hlt, rfl⟩
  · next hlt =>
    rw [Option.eq_none_iff_forall_ne_some]
    intro w hw
    obtain ⟨sign, digits, m, rfl | rfl, hs, hm, hmlt, -⟩ := unsigned64?_eq_some_iff.mp hw
    · rw [List.nil_append] at hs
      subst hs
      exact hlt (h.value ▸ hm.value ▸ hmlt)
    · subst hs
      exact absurd rfl (head_ne_of_numeral h (by decide))

/-- A numeral, possibly behind a sign, and the integer that it is. -/
inductive SignedNumeral : List Char → Int → Prop where
  | positive {sign digits : List Char} {n : Nat} (hsign : sign = [] ∨ sign = ['+'])
      (hdigits : Numeral digits n) : SignedNumeral (sign ++ digits) n
  | negative {digits : List Char} {n : Nat} (hdigits : Numeral digits n) :
      SignedNumeral ('-' :: digits) (-n)

theorem signedNumeral_plus_iff {digits : List Char} {v : Int} :
    SignedNumeral ('+' :: digits) v ↔ ∃ n, Numeral digits n ∧ v = Int.ofNat n := by
  constructor
  · generalize hs : '+' :: digits = s
    rintro (⟨rfl | rfl, hdigits⟩ | ⟨hdigits⟩)
    · rw [List.nil_append] at hs
      subst hs
      exact absurd rfl (head_ne_of_numeral hdigits (by decide))
    · cases hs
      exact ⟨_, hdigits, rfl⟩
    · cases hs
  · rintro ⟨n, hn, rfl⟩
    exact .positive (.inr rfl) hn

theorem signedNumeral_minus_iff {digits : List Char} {v : Int} :
    SignedNumeral ('-' :: digits) v ↔ ∃ n, Numeral digits n ∧ v = -Int.ofNat n := by
  constructor
  · generalize hs : '-' :: digits = s
    rintro (⟨rfl | rfl, hdigits⟩ | ⟨hdigits⟩)
    · rw [List.nil_append] at hs
      subst hs
      exact absurd rfl (head_ne_of_numeral hdigits (by decide))
    · cases hs
    · cases hs
      exact ⟨_, hdigits, rfl⟩
  · rintro ⟨n, hn, rfl⟩
    exact .negative hn

theorem signedNumeral_bare_iff {s : List Char} {v : Int} (hplus : ∀ digits, s ≠ '+' :: digits)
    (hminus : ∀ digits, s ≠ '-' :: digits) :
    SignedNumeral s v ↔ ∃ n, Numeral s n ∧ v = Int.ofNat n := by
  constructor
  · rintro (⟨rfl | rfl, hdigits⟩ | ⟨hdigits⟩)
    · exact ⟨_, hdigits, rfl⟩
    · exact absurd rfl (hplus _)
    · exact absurd rfl (hminus _)
  · rintro ⟨n, hn, rfl⟩
    exact .positive (.inl rfl) hn

theorem signedNumeral_decimal (v : Int) : SignedNumeral (decimal v).toList v := by
  cases v with
  | ofNat n =>
    rw [Int.ofNat_eq_natCast, toList_decimal]
    exact .positive (.inl rfl) (numeral_toDigits n)
  | negSucc n =>
    rw [decimal, String.toList_ofList, Int.negSucc_eq]
    exact .negative (numeral_toDigits (n + 1))

/-- The integer that a text is a numeral for. -/
def signedValue? : List Char → Option Int
  | '+' :: rest => (digits? rest).map Int.ofNat
  | '-' :: rest => (digits? rest).map fun n => -Int.ofNat n
  | s => (digits? s).map Int.ofNat

theorem map_digits?_eq_some_iff {digits : List Char} {f : Nat → Int} {v : Int} :
    (digits? digits).map f = some v ↔ ∃ n, Numeral digits n ∧ v = f n := by
  simp only [Option.map_eq_some_iff, digits?_eq_some_iff, @eq_comm _ v]

theorem signedValue?_eq_some_iff {s : List Char} {v : Int} :
    signedValue? s = some v ↔ SignedNumeral s v := by
  unfold signedValue?
  split
  · rw [map_digits?_eq_some_iff, signedNumeral_plus_iff]
  · rw [map_digits?_eq_some_iff, signedNumeral_minus_iff]
  · next hplus hminus => rw [map_digits?_eq_some_iff, signedNumeral_bare_iff hplus hminus]

/-- The word of an integer, if there is one. -/
def signedWord? (v : Int) : Option Int64 :=
  if -2 ^ 63 ≤ v ∧ v < 2 ^ 63 then some (Int64.ofInt v) else none

theorem signed64?_eq (s : List Char) : signed64? s = (signedValue? s).bind signedWord? := by
  unfold signedValue?
  -- the value is named before the range is looked at, which would be evaluated otherwise
  split
  · next rest => cases h : (digits? rest).map Int.ofNat <;> simp only [signed64?, h] <;> rfl
  · next rest =>
    cases h : (digits? rest).map fun n => -Int.ofNat n <;> simp only [signed64?, h] <;> rfl
  · cases h : (digits? s).map Int.ofNat <;> simp only [signed64?, h] <;> rfl

/-- An integer in `[-2 ^ 63, 2 ^ 63)`. -/
theorem signed64?_eq_some_iff {s : List Char} {w : Int64} :
    signed64? s = some w ↔
      ∃ v, SignedNumeral s v ∧ -2 ^ 63 ≤ v ∧ v < 2 ^ 63 ∧ w = Int64.ofInt v := by
  simp only [signed64?_eq, Option.bind_eq_some_iff, signedValue?_eq_some_iff, signedWord?,
    Option.ite_none_right_eq_some, Option.some.injEq, and_assoc, @eq_comm _ w]

/-- A text is a numeral for one integer only. -/
theorem SignedNumeral.unique {s : List Char} {v w : Int} (hv : SignedNumeral s v)
    (hw : SignedNumeral s w) : v = w := by
  rw [← signedValue?_eq_some_iff] at hv hw
  exact Option.some.inj (hv.symm.trans hw)

theorem SignedNumeral.forall_mem {P : Char → Prop} {s : List Char} {v : Int}
    (h : SignedNumeral s v) (hplus : P '+') (hminus : P '-')
    (hdigit : ∀ c, isDigit c = true → P c) : ∀ c ∈ s, P c := by
  have hnumeral : ∀ {digits : List Char} {n : Nat}, Numeral digits n → ∀ c ∈ digits, P c :=
    fun hn c hc => hdigit c (hn.digits c hc)
  rcases h with ⟨rfl | rfl, hdigits⟩ | ⟨hdigits⟩
  · exact hnumeral hdigits
  · exact List.forall_mem_cons.mpr ⟨hplus, hnumeral hdigits⟩
  · exact List.forall_mem_cons.mpr ⟨hminus, hnumeral hdigits⟩

end JobResults.Text
