import JobResults.Binary64.Decimal
import JobResults.Proofs.Text.LowerCase

/-!
  # What is read as a double

  The texts that are read as doubles hold nothing but digits, letters, signs and points
  (`isTextChar_of_parse?`), behind their leading digits comes a point or an exponent if anything
  (`tail_of_parse?`), and every numeral is one of them, however long (`parse?_numeral`).
-/

namespace JobResults.Binary64

open Text (Numeral isDigit)

/-- Whether a character may stand in the text of a double. -/
def isTextChar (c : Char) : Bool :=
  isDigit c || ('a' ≤ c && c ≤ 'z') || ('A' ≤ c && c ≤ 'Z') || c == '+' || c == '-' || c == '.'

theorem isTextChar_of_isDigit {c : Char} (h : isDigit c = true) : isTextChar c = true := by
  simp [isTextChar, h]

theorem toNat_of_isTextChar {c : Char} (h : isTextChar c = true) :
    43 ≤ c.toNat ∧ c.toNat ≤ 122 := by
  simp only [isTextChar, Bool.or_eq_true, Bool.and_eq_true, decide_eq_true_eq, beq_iff_eq] at h
  rcases h with ((((hdigit | hsmall) | hcapital) | rfl) | rfl) | rfl
  · have hrange := Text.toNat_of_isDigit hdigit
    omega
  · have hlow : 97 ≤ c.toNat := hsmall.1
    have hhigh : c.toNat ≤ 122 := hsmall.2
    omega
  · have hlow : 65 ≤ c.toNat := hcapital.1
    have hhigh : c.toNat ≤ 90 := hcapital.2
    omega
  · decide
  · decide
  · decide

theorem isBlank_of_isTextChar {c : Char} (h : isTextChar c = true) : Text.isBlank c = false := by
  have hrange := toNat_of_isTextChar h
  exact Text.isBlank_of_blankFree 43 122 (by decide) hrange.1 hrange.2

/-- A character with a small letter for its lower case is a letter. -/
theorem isTextChar_of_toLower {c : Char} (hlow : 'a' ≤ c.toLower) (hhigh : c.toLower ≤ 'z') :
    isTextChar c = true := by
  simp only [isTextChar, Bool.or_eq_true, Bool.and_eq_true, decide_eq_true_eq, beq_iff_eq]
  rcases Text.toLower_cases c with hsame | ⟨hfirst, hlast, -⟩
  · rw [hsame] at hlow hhigh
    exact .inl (.inl (.inl (.inl (.inr ⟨hlow, hhigh⟩))))
  · exact .inl (.inl (.inl (.inr ⟨hfirst, hlast⟩)))

/-! ### Numerals with a fraction and an exponent -/

/-- The digits behind a point, and the rest. -/
def spanFraction : List Char → List Char × List Char
  | '.' :: rest => spanDigits rest
  | rest => ([], rest)

theorem unsigned?_eq (negative : Bool) (s : List Char) :
    unsigned? negative s =
      if (s.takeWhile isDigit).isEmpty && (spanFraction (s.dropWhile isDigit)).1.isEmpty then none
      else (exponent? (spanFraction (s.dropWhile isDigit)).2).map fun exponent =>
        ofDecimal negative
          (Text.digitsValue (s.takeWhile isDigit ++ (spanFraction (s.dropWhile isDigit)).1))
          (exponent - (spanFraction (s.dropWhile isDigit)).1.length) := rfl

/-- What may follow the digits in front of a numeral. -/
def IsTail (s : List Char) : Prop :=
  s = [] ∨ ∃ c rest, s = c :: rest ∧ (c = '.' ∨ c = 'e' ∨ c = 'E') ∧
    ∀ d ∈ rest, isTextChar d = true

theorem isTextChar_of_digits? {s : List Char} {n : Int} {f : Nat → Int}
    (h : (Text.digits? s).map f = some n) : ∀ c ∈ s, isTextChar c = true := by
  obtain ⟨n, hn, -⟩ := Text.map_digits?_eq_some_iff.mp h
  exact fun c hc => isTextChar_of_isDigit (hn.digits c hc)

theorem isTail_of_exponent? {s : List Char} {e : Int} (h : exponent? s = some e) : IsTail s := by
  cases s with
  | nil => exact .inl rfl
  | cons c rest =>
    unfold exponent? at h
    dsimp only at h
    split at h
    · next hc =>
      refine .inr ⟨c, rest, rfl, .inr hc, ?_⟩
      split at h
      · exact List.forall_mem_cons.mpr ⟨by decide, isTextChar_of_digits? h⟩
      · exact List.forall_mem_cons.mpr ⟨by decide, isTextChar_of_digits? h⟩
      · exact isTextChar_of_digits? h
    · cases h

theorem IsTail.all {s : List Char} (h : IsTail s) : ∀ c ∈ s, isTextChar c = true := by
  rcases h with rfl | ⟨c, rest, rfl, hc, hrest⟩
  · exact List.forall_mem_nil _
  · refine List.forall_mem_cons.mpr ⟨?_, hrest⟩
    rcases hc with rfl | rfl | rfl <;> decide

theorem isTail_of_unsigned? {negative : Bool} {s : List Char} {x : Binary64}
    (h : unsigned? negative s = some x) : IsTail (s.dropWhile isDigit) := by
  rw [unsigned?_eq] at h
  split at h
  · cases h
  · obtain ⟨e, he, -⟩ := Option.map_eq_some_iff.mp h
    have htail := isTail_of_exponent? he
    unfold spanFraction at htail
    split at htail
    · next rest hrest =>
      refine .inr ⟨'.', rest, hrest, .inl rfl, fun d hd => ?_⟩
      rw [← List.takeWhile_append_dropWhile (p := isDigit) (l := rest), List.mem_append] at hd
      rcases hd with hd | hd
      · exact isTextChar_of_isDigit (List.all_eq_true.mp List.all_takeWhile d hd)
      · exact htail.all d hd
    · exact htail

/-! ### Texts -/

theorem isTextChar_of_unsigned? {negative : Bool} {s : List Char} {x : Binary64}
    (h : unsigned? negative s = some x) : ∀ c ∈ s, isTextChar c = true := by
  intro c hc
  rw [← List.takeWhile_append_dropWhile (p := isDigit) (l := s), List.mem_append] at hc
  rcases hc with hc | hc
  · exact isTextChar_of_isDigit (List.all_eq_true.mp List.all_takeWhile c hc)
  · exact (isTail_of_unsigned? h).all c hc

/-- The sign of a text, and what it is the sign of. -/
def splitSign : List Char → Bool × List Char
  | '-' :: rest => (true, rest)
  | '+' :: rest => (false, rest)
  | s => (false, s)

def word (s : List Char) : String := String.ofList (s.map Char.toLower)

theorem parse?_eq (s : List Char) :
    parse? s =
      if word (splitSign s).2 = "nan" then some .nan
      else if word (splitSign s).2 = "inf" ∨ word (splitSign s).2 = "infinity" then
        some (.infinite (splitSign s).1)
      else unsigned? (splitSign s).1 (splitSign s).2 := rfl

/-- What is no numeral is one of three words. -/
theorem cases_of_parse? {s : List Char} {x : Binary64} (h : parse? s = some x) :
    word (splitSign s).2 ∈ ["nan", "inf", "infinity"] ∨
      unsigned? (splitSign s).1 (splitSign s).2 = some x := by
  rw [parse?_eq] at h
  split at h
  · next hword => exact .inl (by simp [hword])
  · split at h
    · next hword => exact .inl (by rcases hword with hword | hword <;> simp [hword])
    · exact .inr h

theorem isTextChar_of_word {s : List Char} (h : word s ∈ ["nan", "inf", "infinity"]) :
    ∀ c ∈ s, isTextChar c = true := by
  have hletters : ∀ w ∈ ["nan", "inf", "infinity"],
      w.toList.all (fun c => 'a' ≤ c ∧ c ≤ 'z') = true := by decide
  intro c hc
  have hlower : c.toLower ∈ (word s).toList := by
    rw [word, String.toList_ofList]
    exact List.mem_map_of_mem hc
  have hrange := of_decide_eq_true (List.all_eq_true.mp (hletters _ h) _ hlower)
  exact isTextChar_of_toLower hrange.1 hrange.2

theorem isTextChar_of_parse? {s : List Char} {x : Binary64} (h : parse? s = some x) :
    ∀ c ∈ s, isTextChar c = true := by
  have hbody : ∀ c ∈ (splitSign s).2, isTextChar c = true := by
    rcases cases_of_parse? h with hword | hnumeral
    · exact isTextChar_of_word hword
    · exact isTextChar_of_unsigned? hnumeral
  unfold splitSign at hbody
  split at hbody
  · exact List.forall_mem_cons.mpr ⟨by decide, hbody⟩
  · exact List.forall_mem_cons.mpr ⟨by decide, hbody⟩
  · exact hbody

/-! ### Leading digits -/

section Digits

variable {digits : List Char}

theorem splitSign_of_digits (hne : digits ≠ []) (hdigits : ∀ c ∈ digits, isDigit c = true)
    (rest : List Char) :
    splitSign (digits ++ rest) = (false, digits ++ rest) := by
  obtain ⟨first, more, rfl⟩ := List.exists_cons_of_ne_nil hne
  have hfirst : isDigit first = true := hdigits first List.mem_cons_self
  unfold splitSign
  split
  · next h =>
    rw [(List.cons.inj h).1] at hfirst
    cases hfirst
  · next h =>
    rw [(List.cons.inj h).1] at hfirst
    cases hfirst
  · rfl

theorem word_of_digits (hne : digits ≠ []) (hdigits : ∀ c ∈ digits, isDigit c = true)
    (rest : List Char) :
    word (digits ++ rest) ∉ ["nan", "inf", "infinity"] := by
  intro hword
  obtain ⟨first, more, rfl⟩ := List.exists_cons_of_ne_nil hne
  have hrange := Text.toNat_of_isDigit (hdigits first List.mem_cons_self)
  have hsame : first.toLower = first := by
    rcases Text.toLower_cases first with hsame | hcapital
    · exact hsame
    · omega
  have hhead : ∀ w ∈ ["nan", "inf", "infinity"], w.toList.head?.any isDigit = false := by decide
  have hfalse := hhead _ hword
  rw [word, String.toList_ofList, List.cons_append, List.map_cons, List.head?_cons, Option.any_some,
    hsame, hdigits first List.mem_cons_self] at hfalse
  cases hfalse

/-- Behind leading digits a double goes on with a point or an exponent, if at all. -/
theorem tail_of_parse? (hne : digits ≠ []) (hdigits : ∀ c ∈ digits, isDigit c = true)
    {rest : List Char} (hrest : rest.head?.all (!isDigit ·) = true) {x : Binary64}
    (h : parse? (digits ++ rest) = some x) : IsTail rest := by
  rcases cases_of_parse? h with hword | hnumeral
  · rw [splitSign_of_digits hne hdigits] at hword
    exact absurd hword (word_of_digits hne hdigits rest)
  · have htail := isTail_of_unsigned? hnumeral
    rw [splitSign_of_digits hne hdigits, Text.dropWhile_isDigit hdigits hrest] at htail
    exact htail

/-- A numeral is a double, however large the number. -/
theorem parse?_numeral {sign : List Char} (hsign : sign = [] ∨ sign = ['+']) {n : Nat}
    (hdigits : Numeral digits n) : ∃ x, parse? (sign ++ digits) = some x := by
  have hbody : splitSign (sign ++ digits) = (false, digits) := by
    rcases hsign with rfl | rfl
    · have hsplit := splitSign_of_digits hdigits.ne_nil hdigits.digits []
      rwa [List.append_nil] at hsplit
    · rfl
  have hword := word_of_digits hdigits.ne_nil hdigits.digits []
  rw [List.append_nil] at hword
  simp only [List.mem_cons, List.not_mem_nil, or_false, not_or] at hword
  have htake : (digits ++ []).takeWhile isDigit = digits :=
    Text.takeWhile_isDigit hdigits.digits rfl
  have hdrop : (digits ++ []).dropWhile isDigit = [] :=
    Text.dropWhile_isDigit hdigits.digits rfl
  rw [List.append_nil] at htake hdrop
  rw [parse?_eq, hbody, if_neg hword.1, if_neg (by simp [hword]), unsigned?_eq, htake, hdrop]
  simp [hdigits.ne_nil, spanFraction, exponent?]

end Digits

end JobResults.Binary64
