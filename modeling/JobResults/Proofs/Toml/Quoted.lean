import JobResults.Json.Writer
import JobResults.Toml.Document

/-!
  # Quoted texts in TOML

  Every text can be written in double quotes, with escapes for the characters that may not stand
  there as they are, and is read back as it was (`string?_quoted`).  So a document of one line sets
  one field of one table to any text at all (`document_pairLine`).
-/

namespace JobResults.Toml

/-! ### Writing -/

/-- A character in double quotes. -/
def escapeChar (c : Char) : List Char :=
  if c = '"' ∨ c = '\\' then ['\\', c]
  else if isPlain c then [c]
  else ['\\', 'u', '0', '0'] ++ Json.twoDigits c.toNat

/-- A text in double quotes. -/
def quoted (s : List Char) : List Char := '"' :: (s.flatMap escapeChar ++ ['"'])

/-- A line that sets a field of a table to a text. -/
def pairLine (table key : String) (s : List Char) : List Char :=
  table.toList ++ '.' :: (key.toList ++ ' ' :: '=' :: ' ' :: (quoted s ++ ['\n']))

/-! ### Reading strings -/

/-- Only ASCII has to be written with a number. -/
theorem toNat_of_not_plain {c : Char} (h : isPlain c = false) : c.toNat < 0x80 := by
  simp only [isPlain, Bool.or_eq_false_iff, Bool.and_eq_false_iff, decide_eq_false_iff_not,
    bne_eq_false_iff_eq] at h
  rcases h.2 with hlow | rfl
  · have hspace : ¬ 0x20 ≤ c.toNat := hlow
    omega
  · decide

theorem escape?_number {n : Nat} (h : n < 0x80) (rest : List Char) :
    escape? ('u' :: '0' :: '0' :: (Json.twoDigits n ++ rest)) = some (Char.ofNat n, rest) := by
  have hdigits : ∀ n < 0x80, scalar? ('0' :: '0' :: Json.twoDigits n) = some (Char.ofNat n) := by
    decide +kernel
  have hvalue := hdigits n h
  simp only [Json.twoDigits] at hvalue
  simp [escape?, numbered?, Json.twoDigits, hvalue]

theorem basicBody_escapeChar (fuel : Nat) (c : Char) (rest : List Char) :
    basicBody (fuel + 1) (escapeChar c ++ rest) = cons c (basicBody fuel rest) := by
  unfold escapeChar
  split
  · next h => rcases h with rfl | rfl <;> rfl
  · next hspecial =>
    rw [not_or] at hspecial
    split
    · next hplain =>
      rw [List.singleton_append, basicBody, if_neg hspecial.1, if_neg hspecial.2, if_pos hplain]
    · next hplain =>
      have hc : c.toNat < 0x80 := toNat_of_not_plain (Bool.eq_false_iff.mpr hplain)
      rw [List.append_assoc]
      show (escape? ('u' :: '0' :: '0' :: (Json.twoDigits c.toNat ++ rest))).bind _ = _
      rw [escape?_number hc, Char.ofNat_toNat]
      rfl

theorem basicBody_flatMap (s rest : List Char) {fuel : Nat} (h : s.length < fuel) :
    basicBody fuel (s.flatMap escapeChar ++ '"' :: rest) = some (s, rest) := by
  induction s generalizing fuel with
  | nil =>
    obtain ⟨fuel, rfl⟩ := Nat.exists_eq_add_one_of_ne_zero (Nat.ne_of_gt h)
    rfl
  | cons c s ih =>
    obtain ⟨fuel, rfl⟩ := Nat.exists_eq_add_one_of_ne_zero (Nat.ne_of_gt (Nat.zero_lt_of_lt h))
    rw [List.flatMap_cons, List.append_assoc, basicBody_escapeChar,
      ih (by rw [List.length_cons] at h; omega)]
    rfl

/-- What stands for a character does not start with a quote. -/
theorem exists_escapeChar (c : Char) : ∃ d more, escapeChar c = d :: more ∧ d ≠ '"' := by
  unfold escapeChar
  split
  · exact ⟨'\\', [c], rfl, by decide⟩
  · next hspecial =>
    rw [not_or] at hspecial
    split
    · exact ⟨c, [], rfl, hspecial.1⟩
    · exact ⟨'\\', _, rfl, by decide⟩

theorem length_le_flatMap (s : List Char) : s.length ≤ (s.flatMap escapeChar).length := by
  induction s with
  | nil => exact Nat.le_refl 0
  | cons c s ih =>
    obtain ⟨d, more, hc, -⟩ := exists_escapeChar c
    simp only [List.flatMap_cons, hc, List.length_append, List.length_cons]
    omega

theorem string?_of_not_three {body : List Char} (h : ∀ more, body ≠ '"' :: '"' :: more) :
    string? ('"' :: body) = basicBody (body.length + 1) body := by
  unfold string?
  split
  · next more hthree => exact absurd (List.cons.inj hthree).2 (h more)
  · next hthree => cases hthree
  · next hone => rw [(List.cons.inj hone).2]
  · next hone => cases hone
  · next hone _ => exact absurd rfl (hone body)

/-- A text in double quotes is read as that text. -/
theorem string?_quoted (s : List Char) {rest : List Char} (h : rest.head? ≠ some '"') :
    string? (quoted s ++ rest) = some (s, rest) := by
  have hbody : quoted s ++ rest = '"' :: (s.flatMap escapeChar ++ '"' :: rest) := by
    simp [quoted]
  have hthree : ∀ more, s.flatMap escapeChar ++ '"' :: rest ≠ '"' :: '"' :: more := by
    intro more hmore
    cases s with
    | nil =>
      have hrest : rest = '"' :: more := (List.cons.inj hmore).2
      exact h (by rw [hrest]; rfl)
    | cons c s =>
      obtain ⟨d, _, hc, hd⟩ := exists_escapeChar c
      rw [List.flatMap_cons, hc] at hmore
      exact hd (List.cons.inj hmore).1
  have hlength := length_le_flatMap s
  rw [hbody, string?_of_not_three hthree]
  exact basicBody_flatMap s rest (by rw [List.length_append]; omega)

/-! ### Reading the line -/

/-- A key that needs no quotes. -/
def Bare (key : String) : Prop := key.toList ≠ [] ∧ ∀ c ∈ key.toList, isBare c = true

instance (key : String) : Decidable (Bare key) :=
  decidable_of_iff (key.toList ≠ [] ∧ key.toList.all isBare = true)
    (and_congr_right' List.all_eq_true)

theorem ne_of_isBare {c d : Char} (hc : isBare c = true) (hd : isBare d = false) : c ≠ d := by
  rintro rfl
  rw [hc] at hd
  cases hd

theorem skipSpace_of_isBare {c : Char} (h : isBare c = true) (rest : List Char) :
    skipSpace (c :: rest) = c :: rest := by
  have hspace : isSpace c = false := by
    simp [isSpace, ne_of_isBare h (d := ' ') rfl, ne_of_isBare h (d := '\t') rfl]
  rw [skipSpace, List.dropWhile_cons_of_neg (by simp [hspace])]

theorem skipGap_of_isBare {c : Char} (h : isBare c = true) (rest : List Char) :
    skipGap false (c :: rest) = some (c :: rest) := by
  have hspace : isSpace c = false := by
    simp [isSpace, ne_of_isBare h (d := ' ') rfl, ne_of_isBare h (d := '\t') rfl]
  have hreturn : c ≠ '\r' := ne_of_isBare h rfl
  have hcomment : c ≠ '#' := ne_of_isBare h rfl
  rw [skipGap]
  · simp [hspace, hcomment]
  · exact fun _ hc _ => hreturn hc
  · exact ne_of_isBare h rfl

theorem key?_bare {key : String} (h : Bare key) {c : Char} (hc : isBare c = false)
    (rest : List Char) : key? (key.toList ++ c :: rest) = some (key, c :: rest) := by
  obtain ⟨hne, hbare⟩ := h
  obtain ⟨first, more, hkey⟩ := List.exists_cons_of_ne_nil hne
  have hfirst : isBare first = true := hbare first (by simp [hkey])
  have hdouble : first ≠ '"' := ne_of_isBare hfirst rfl
  have hsingle : first ≠ '\'' := ne_of_isBare hfirst rfl
  have htake : (key.toList ++ c :: rest).takeWhile isBare = key.toList := by
    rw [List.takeWhile_append_of_pos hbare, List.takeWhile_cons_of_neg (by simp [hc]),
      List.append_nil]
  have hdrop : (key.toList ++ c :: rest).dropWhile isBare = c :: rest := by
    rw [List.dropWhile_append_of_pos hbare, List.dropWhile_cons_of_neg (by simp [hc])]
  unfold key?
  split
  · next hquote =>
    rw [hkey] at hquote
    exact absurd (List.cons.inj hquote).1 hdouble
  · next hquote =>
    rw [hkey] at hquote
    exact absurd (List.cons.inj hquote).1 hsingle
  · rw [htake, hdrop]
    simp [hne]

theorem skipSpace_bare {key : String} (h : Bare key) (rest : List Char) :
    skipSpace (key.toList ++ rest) = key.toList ++ rest := by
  obtain ⟨first, more, hkey⟩ := List.exists_cons_of_ne_nil h.1
  rw [hkey, List.cons_append]
  exact skipSpace_of_isBare (h.2 first (by simp [hkey])) _

theorem path?_pairLine {table key : String} (htable : Bare table) (hkey : Bare key) (fuel : Nat)
    (s : List Char) :
    path? (fuel + 2) (pairLine table key s) =
      some ([table], key, '=' :: ' ' :: (quoted s ++ ['\n'])) := by
  have hspace : ∀ rest, skipSpace ('.' :: rest) = '.' :: rest := fun _ => rfl
  have hequals : ∀ rest, skipSpace (' ' :: '=' :: rest) = '=' :: rest := fun _ => rfl
  have hlast : path? (fuel + 1) (key.toList ++ ' ' :: '=' :: ' ' :: (quoted s ++ ['\n'])) =
      some ([], key, '=' :: ' ' :: (quoted s ++ ['\n'])) := by
    rw [path?, skipSpace_bare hkey, key?_bare hkey rfl]
    simp [hequals]
  rw [pairLine, path?, skipSpace_bare htable, key?_bare htable rfl]
  simp [hspace, hlast]

theorem value_quoted (fuel depth : Nat) (s : List Char) :
    value (fuel + 1) depth (quoted s ++ ['\n']) = some (.text (String.ofList s), ['\n']) := by
  have hread : string? (quoted s ++ ['\n']) = some (s, ['\n']) := string?_quoted s (by decide)
  show (string? (quoted s ++ ['\n'])).map _ = _
  rw [hread]
  rfl

/-- The document of one line has one table with one field. -/
theorem document_pairLine {table key : String} (htable : Bare table) (hkey : Bare key)
    (s : List Char) :
    document (pairLine table key s) =
      some [(table, .table .dotted [(key, .text (String.ofList s))])] := by
  obtain ⟨first, more, hchars⟩ := List.exists_cons_of_ne_nil htable.1
  have hfirst : isBare first = true := htable.2 first (by simp [hchars])
  have hmark : first ≠ '\uFEFF' := ne_of_isBare hfirst rfl
  have hbracket : first ≠ '[' := ne_of_isBare hfirst rfl
  obtain ⟨rest, hline⟩ : ∃ rest, pairLine table key s = first :: rest := by
    rw [pairLine, hchars]
    exact ⟨_, rfl⟩
  have hlength : ∃ n, (pairLine table key s).length = n + 1 := ⟨rest.length, by rw [hline]; rfl⟩
  obtain ⟨n, hn⟩ := hlength
  have hspace : skipSpace (' ' :: (quoted s ++ ['\n'])) = quoted s ++ ['\n'] := rfl
  have hpair : pair ⟨[], []⟩ (pairLine table key s) =
      some (⟨[(table, .table .dotted [(key, .text (String.ofList s))])], []⟩, ['\n']) := by
    rw [pair, hn, path?_pairLine htable hkey]
    simp only [Option.bind_eq_bind, Option.bind_some, after, if_true, hspace, value_quoted]
    rfl
  have hdocument : document (pairLine table key s) =
      lines ((pairLine table key s).length + 1) ⟨[], []⟩ (pairLine table key s) := by
    rw [document]
    intro more hmore
    rw [hline] at hmore
    exact hmark (List.cons.inj hmore).1
  rw [hdocument, hn, lines, hline, skipGap_of_isBare hfirst]
  simp only [if_neg hbracket, ← hline, hpair, Option.bind_eq_bind, Option.bind_some]
  rfl

end JobResults.Toml
