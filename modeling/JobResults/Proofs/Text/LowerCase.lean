import JobResults.Proofs.Text.Numeral
import JobResults.Text.LowerCase

/-!
  # White space and lower case

  White space has no lower case of its own, and no lower case of anything else is white space
  (`lowerChar_cases`).  So a text that does not end in white space does not do so in lower case
  either (`endsBare_lower`), and digits and small letters stay as they are (`lower_of_small`).
-/

namespace JobResults.Text

/-! ### Single characters -/

/-- A range of code points without white space. -/
def blankFree (first last : Nat) : Bool :=
  [(9, 13), (0x20, 0x20), (0x85, 0x85), (0xA0, 0xA0), (0x1680, 0x1680), (0x2000, 0x200A),
    (0x2028, 0x2029), (0x202F, 0x202F), (0x205F, 0x205F), (0x3000, 0x3000)].all
      fun range => last < range.1 || range.2 < first

theorem isBlank_of_blankFree (first last : Nat) (h : blankFree first last = true) {c : Char}
    (hfirst : first ≤ c.toNat) (hlast : c.toNat ≤ last) : isBlank c = false := by
  simp only [blankFree, List.all_cons, List.all_nil, Bool.and_true, Bool.and_eq_true,
    Bool.or_eq_true, decide_eq_true_eq] at h
  simp only [isBlank, Bool.or_eq_false_iff, Bool.and_eq_false_iff, decide_eq_false_iff_not,
    beq_eq_false_iff_ne]
  omega

/-- Neither the capital letters of the table nor their lower cases are white space. -/
theorem blankFree_capitals :
    capitals.all (fun (first, last, _, lower) =>
      blankFree first last && blankFree lower (lower + (last - first))) = true := by
  decide +kernel

theorem toNat_ofNat (n : Nat) : (Char.ofNat n).toNat = n ∨ Char.ofNat n = '\x00' := by
  by_cases h : n.isValidChar
  · left
    rw [Char.ofNat, dif_pos h]
    rfl
  · right
    rw [Char.ofNat, dif_neg h]
    rfl

theorem toLower_cases (c : Char) :
    c.toLower = c ∨ 65 ≤ c.toNat ∧ c.toNat ≤ 90 ∧ c.toLower.toNat = c.toNat + 32 := by
  unfold Char.toLower
  split
  · next h =>
    have hfirst : 65 ≤ c.toNat := h.1
    have hlast : c.toNat ≤ 90 := h.2
    have hsum : (c.val + ('a'.val - 'A'.val)).toNat = c.toNat + 32 := by
      have hstep : ('a'.val - 'A'.val).toNat = 32 := rfl
      rw [UInt32.toNat_add, hstep, Char.toNat_val]
      omega
    exact .inr ⟨hfirst, hlast, hsum⟩
  · exact .inl rfl

theorem isDigit_toLower (c : Char) : isDigit c.toLower = isDigit c := by
  rcases toLower_cases c with hsame | ⟨hfirst, hlast, hsum⟩
  · rw [hsame]
  · rw [isDigit_of_large (by omega), isDigit_of_large (by omega)]

/-- A character is its own lower case, or neither of the two is white space. -/
theorem lowerChar_cases (c : Char) :
    lowerChar c = c ∨ isBlank c = false ∧ isBlank (lowerChar c) = false := by
  unfold lowerChar
  split
  · rcases toLower_cases c with h | ⟨hfirst, hlast, hsum⟩
    · exact .inl h
    · exact .inr ⟨isBlank_of_blankFree 65 90 (by decide) hfirst hlast,
        isBlank_of_blankFree 97 122 (by decide) (by omega) (by omega)⟩
  · split
    · next first last step lower hfind =>
      have hrange := Array.find?_some hfind
      simp only [Bool.and_eq_true, decide_eq_true_eq] at hrange
      have hfree := blankFree_capitals
      rw [Array.all_eq_true'] at hfree
      have hrow := hfree _ (Array.mem_of_find?_eq_some hfind)
      simp only [Bool.and_eq_true] at hrow
      refine .inr ⟨isBlank_of_blankFree _ _ hrow.1 hrange.1.1 hrange.1.2, ?_⟩
      rcases toNat_ofNat (lower + (c.toNat - first)) with hnat | hnul
      · exact isBlank_of_blankFree _ _ hrow.2 (by omega) (by omega)
      · rw [hnul]
        decide
    · exact .inl rfl

/-- The table leads to ASCII only from the sign of the kelvin. -/
theorem wide_capitals :
    capitals.all (fun (first, last, _, lower) =>
      128 ≤ lower || (lower == 'k'.toNat && first == last)) = true := by
  decide +kernel

/-- Beyond ASCII the lower case lies beyond ASCII, but for the sign of the kelvin. -/
theorem lowerChar_of_wide {c : Char} (h : 128 ≤ c.toNat) :
    lowerChar c = 'k' ∨ lowerChar c = '\x00' ∨ 128 ≤ (lowerChar c).toNat := by
  unfold lowerChar
  rw [if_neg (Nat.not_lt.mpr h)]
  split
  · next first last step lower hfind =>
    have hrange := Array.find?_some hfind
    simp only [Bool.and_eq_true, decide_eq_true_eq] at hrange
    have hwide := wide_capitals
    rw [Array.all_eq_true'] at hwide
    have hrow := hwide _ (Array.mem_of_find?_eq_some hfind)
    simp only [Bool.or_eq_true, Bool.and_eq_true, decide_eq_true_eq, beq_iff_eq] at hrow
    rcases toNat_ofNat (lower + (c.toNat - first)) with hnat | hnul
    · rcases hrow with hlower | ⟨rfl, rfl⟩
      · exact .inr (.inr (by omega))
      · have hzero : c.toNat - first = 0 := by omega
        rw [hzero]
        exact .inl rfl
    · exact .inr (.inl hnul)
  · exact .inr (.inr h)

/-! ### Texts -/

/-- What a character becomes between what is before it and what follows it. -/
def lowered (before : List Char) (c : Char) (rest : List Char) : List Char :=
  if c = '\u03a3' then
    [if startsCased before && !startsCased rest then '\u03c2' else '\u03c3']
  else if c = '\u0130' then ['i', '\u0307']
  else [lowerChar c]

theorem lowerFrom_cons (before : List Char) (c : Char) (rest : List Char) :
    lowerFrom before (c :: rest) = lowered before c rest ++ lowerFrom (c :: before) rest := rfl

theorem exists_mem_lowered (before : List Char) (c : Char) (rest : List Char) :
    (∃ x ∈ lowered before c rest, 128 ≤ x.toNat) ∨ lowered before c rest = [lowerChar c] := by
  unfold lowered
  split
  · left
    split
    · exact ⟨_, List.mem_singleton_self _, by decide⟩
    · exact ⟨_, List.mem_singleton_self _, by decide⟩
  · split
    · exact .inl ⟨'\u0307', by simp, by decide⟩
    · exact .inr rfl

/-- Nothing but white space becomes white space. -/
theorem not_isBlank_of_mem_lowered {c x : Char} (h : isBlank c = false)
    {before rest : List Char} (hx : x ∈ lowered before c rest) : isBlank x = false := by
  unfold lowered at hx
  split at hx
  · split at hx <;> rw [List.mem_singleton.mp hx] <;> decide
  · split at hx
    · rcases List.mem_cons.mp hx with rfl | hx
      · decide
      · rw [List.mem_singleton.mp hx]
        decide
    · rw [List.mem_singleton.mp hx]
      rcases lowerChar_cases c with hsame | ⟨-, hblank⟩
      · rw [hsame, h]
      · exact hblank

/-- A text is made of small letters only out of letters.  The `k` is left out because it may come
    from beyond ASCII. -/
theorem letter_of_lowerFrom {before s : List Char}
    (h : ∀ x ∈ lowerFrom before s, 'a' ≤ x ∧ x ≤ 'z' ∧ x ≠ 'k') :
    ∀ c ∈ s, c.toNat < 128 ∧ 'a' ≤ c.toLower ∧ c.toLower ≤ 'z' := by
  induction s generalizing before with
  | nil => exact List.forall_mem_nil _
  | cons c rest ih =>
    simp only [lowerFrom_cons, List.forall_mem_append] at h
    refine List.forall_mem_cons.mpr ⟨?_, ih h.2⟩
    rcases exists_mem_lowered before c rest with ⟨x, hx, hwide⟩ | hone
    · have hsmall : x.toNat ≤ 122 := (h.1 x hx).2.1
      omega
    · obtain ⟨hfirst, hlast, hk⟩ := h.1 (lowerChar c) (by simp [hone])
      by_cases hascii : c.toNat < 128
      · rw [lowerChar, if_pos hascii] at hfirst hlast
        exact ⟨hascii, hfirst, hlast⟩
      · have hsmall : (lowerChar c).toNat ≤ 122 := hlast
        rcases lowerChar_of_wide (Nat.not_lt.mp hascii) with h' | h' | h'
        · exact absurd h' hk
        · rw [h'] at hfirst
          exact absurd hfirst (by decide)
        · omega

/-- The last character of a text is no white space. -/
def EndsBare (s : List Char) : Prop := ∀ c, s.getLast? = some c → isBlank c = false

theorem endsBare_trim (s : List Char) : EndsBare (trim s) := by
  intro c hc
  rw [trim, trimEnd, List.getLast?_reverse] at hc
  have hhead := List.head?_dropWhile_not isBlank (trimStart s).reverse
  rw [hc] at hhead
  exact hhead

theorem lowered_ne_nil (before : List Char) (c : Char) (rest : List Char) :
    lowered before c rest ≠ [] := by
  unfold lowered
  split
  · exact List.cons_ne_nil _ _
  · split <;> exact List.cons_ne_nil _ _

theorem lowerFrom_eq_nil_iff {before s : List Char} : lowerFrom before s = [] ↔ s = [] := by
  cases s with
  | nil => simp [lowerFrom]
  | cons c rest => simp [lowerFrom_cons, lowered_ne_nil]

theorem endsBare_lowerFrom {s : List Char} (h : EndsBare s) (before : List Char) :
    EndsBare (lowerFrom before s) := by
  induction s generalizing before with
  | nil => exact nofun
  | cons c rest ih =>
    intro x hx
    rw [lowerFrom_cons, List.getLast?_append] at hx
    cases rest with
    | nil =>
      have hc : isBlank c = false := h c rfl
      simp only [lowerFrom, List.getLast?_nil, Option.none_or] at hx
      exact not_isBlank_of_mem_lowered hc (List.mem_of_getLast? hx)
    | cons d rest =>
      have hrest : EndsBare (d :: rest) := fun x hx => h x (by rw [List.getLast?_cons_cons, hx])
      have hne : lowerFrom (c :: before) (d :: rest) ≠ [] := by
        rw [Ne, lowerFrom_eq_nil_iff]
        exact List.cons_ne_nil _ _
      rw [List.getLast?_eq_some_getLast hne, Option.some_or] at hx
      exact ih hrest (c :: before) x (by rw [List.getLast?_eq_some_getLast hne, hx])

theorem endsBare_lower {s : List Char} (h : EndsBare s) : EndsBare (lower s) :=
  endsBare_lowerFrom h []

/-- In ASCII only the capital letters change. -/
theorem lower_of_ascii {s : List Char} (h : ∀ c ∈ s, c.toNat < 128) :
    lower s = s.map Char.toLower := by
  suffices hfrom : ∀ before, lowerFrom before s = s.map Char.toLower from hfrom []
  induction s with
  | nil => exact fun _ => rfl
  | cons c rest ih =>
    intro before
    have hc : c.toNat < 128 := h c List.mem_cons_self
    have hsigma : c ≠ '\u03a3' := by
      rintro rfl
      exact absurd hc (by decide)
    have hdotted : c ≠ '\u0130' := by
      rintro rfl
      exact absurd hc (by decide)
    rw [lowerFrom_cons, lowered, if_neg hsigma, if_neg hdotted, lowerChar, if_pos hc,
      ih (fun d hd => h d (List.mem_cons_of_mem c hd))]
    rfl

/-- ASCII without capital letters is its own lower case. -/
theorem lower_of_small {s : List Char} (h : ∀ c ∈ s, c.toNat < 65 ∨ 90 < c.toNat ∧ c.toNat < 128) :
    lower s = s := by
  have hascii : ∀ c ∈ s, c.toNat < 128 := fun c hc => by
    have hrange := h c hc
    omega
  have hsame : ∀ c ∈ s, c.toLower = id c := by
    intro c hc
    have hrange := h c hc
    rcases toLower_cases c with hsame | hcapital
    · exact hsame
    · omega
  rw [lower_of_ascii hascii, List.map_congr_left hsame, List.map_id]

/-! ### Trimming -/

theorem EndsBare.of_append {s t : List Char} (h : EndsBare (s ++ t)) : EndsBare t :=
  fun c hc => h c (by rw [List.getLast?_append, hc, Option.some_or])

theorem trimEnd_of_endsBare {s : List Char} (h : EndsBare s) : trimEnd s = s := by
  unfold trimEnd
  cases hlast : s.reverse with
  | nil => simp_all
  | cons c rest =>
    have hc : isBlank c = false := h c (by simp [← List.head?_reverse, hlast])
    rw [List.dropWhile_cons_of_neg (by simp [hc]), ← hlast, List.reverse_reverse]

/-- Of a text that does not end in white space, trimming takes only what is in front. -/
theorem trim_of_endsBare {s : List Char} (h : EndsBare s) : trim s = s.dropWhile isBlank := by
  have hsplit : s.takeWhile isBlank ++ s.dropWhile isBlank = s := List.takeWhile_append_dropWhile
  rw [← hsplit] at h
  rw [trim, trimStart, trimEnd_of_endsBare h.of_append]

/-- White space in front of a text without white space is what is trimmed. -/
theorem trim_gap {gap s : List Char} (hgap : ∀ c ∈ gap, isBlank c = true)
    (hs : ∀ c ∈ s, isBlank c = false) : trim (gap ++ s) = s := by
  have hstart : trimStart (gap ++ s) = s := by
    rw [trimStart, List.dropWhile_append_of_pos hgap]
    cases s with
    | nil => rfl
    | cons c rest => rw [List.dropWhile_cons_of_neg (by simp [hs c List.mem_cons_self])]
  rw [trim, hstart]
  exact trimEnd_of_endsBare fun c hc => hs c (List.mem_of_getLast? hc)

theorem trim_of_bare {s : List Char} (h : ∀ c ∈ s, isBlank c = false) : trim s = s :=
  trim_gap (List.forall_mem_nil _) h

end JobResults.Text
