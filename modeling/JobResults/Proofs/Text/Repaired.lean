import JobResults.Proofs.Embedded.RowKey
import JobResults.Text.Repaired

/-!
  # Repairing what is not broken

  The bytes of a text are read back as that text (`repaired_ofString`): each character is read from
  its bytes whatever follows them.  The cases are those of the width of a character, and in each of
  them the first byte says what the next one may be.
-/

namespace JobResults.Text

/-! ### One byte -/

section Steps

variable {b : UInt8} {low high : Nat}

theorem repairFrom_begun {p : Begun} (h : begin? b = ([], some p)) (rest : Bytes) :
    repairFrom none (b :: rest) = repairFrom (some p) rest := by
  simp [repairFrom, advance, h]

theorem repairFrom_owed (hlow : low ≤ b.toNat) (hhigh : b.toNat ≤ high) (owed bits : Nat)
    (rest : Bytes) :
    repairFrom (some ⟨owed + 2, low, high, bits⟩) (b :: rest) =
      repairFrom (some ⟨owed + 1, 0x80, 0xBF, bits * 64 + b.toNat % 64⟩) rest := by
  simp [repairFrom, advance, hlow, hhigh]

theorem repairFrom_last (hlow : low ≤ b.toNat) (hhigh : b.toNat ≤ high) (bits : Nat)
    (rest : Bytes) :
    repairFrom (some ⟨1, low, high, bits⟩) (b :: rest) =
      Char.ofNat (bits * 64 + b.toNat % 64) :: repairFrom none rest := by
  simp [repairFrom, advance, hlow, hhigh]

end Steps

/-! ### The first byte of a character -/

section Leads

variable {v : Nat}

theorem begin?_ascii (h : v < 0x80) : begin? (UInt8.ofNat v) = ([Char.ofNat v], none) := by
  have hb : (UInt8.ofNat v).toNat = v := by
    rw [UInt8.toNat_ofNat']
    omega
  rw [begin?, hb]
  exact if_pos h

theorem begin?_two (hlow : 0x80 ≤ v) (hhigh : v < 0x800) :
    begin? (UInt8.ofNat (v / 64 % 32 + 192)) = ([], some ⟨1, 0x80, 0xBF, v / 64⟩) := by
  have hb : (UInt8.ofNat (v / 64 % 32 + 192)).toNat = v / 64 + 192 := by
    rw [UInt8.toNat_ofNat']
    omega
  simp only [begin?, hb]
  rw [if_neg (by omega), if_pos (by omega), Nat.add_sub_cancel]

/-- The first byte of three.  The second one keeps out short forms and surrogates. -/
theorem begin?_three (hlow : 0x800 ≤ v) (hhigh : v < 0x10000) (hscalar : v < 0xD800 ∨ 0xE000 ≤ v) :
    ∃ low high, begin? (UInt8.ofNat (v / 4096 % 16 + 224)) = ([], some ⟨2, low, high, v / 4096⟩) ∧
      low ≤ v / 64 % 64 + 128 ∧ v / 64 % 64 + 128 ≤ high := by
  have hb : (UInt8.ofNat (v / 4096 % 16 + 224)).toNat = v / 4096 + 224 := by
    rw [UInt8.toNat_ofNat']
    omega
  simp only [begin?, hb]
  rw [if_neg (by omega), if_neg (by omega)]
  by_cases hshort : v / 4096 + 224 = 0xE0
  · have hbits : v / 4096 = 0 := by omega
    exact ⟨0xA0, 0xBF, by rw [if_pos hshort, hbits], by omega, by omega⟩
  · rw [if_neg hshort]
    by_cases hsurrogate : v / 4096 + 224 = 0xED
    · have hbits : v / 4096 = 0xD := by omega
      exact ⟨0x80, 0x9F, by rw [if_pos hsurrogate, hbits], by omega, by omega⟩
    · refine ⟨0x80, 0xBF, ?_, by omega, by omega⟩
      rw [if_neg hsurrogate, if_pos (by omega), Nat.add_sub_cancel]

/-- The first byte of four.  The second one keeps out short forms and what is beyond the last code
    point. -/
theorem begin?_four (hlow : 0x10000 ≤ v) (hhigh : v < 0x110000) :
    ∃ low high, begin? (UInt8.ofNat (v / 262144 % 8 + 240)) =
        ([], some ⟨3, low, high, v / 262144⟩) ∧
      low ≤ v / 4096 % 64 + 128 ∧ v / 4096 % 64 + 128 ≤ high := by
  have hb : (UInt8.ofNat (v / 262144 % 8 + 240)).toNat = v / 262144 + 240 := by
    rw [UInt8.toNat_ofNat']
    omega
  simp only [begin?, hb]
  rw [if_neg (by omega), if_neg (by omega), if_neg (by omega), if_neg (by omega),
    if_neg (by omega)]
  by_cases hshort : v / 262144 + 240 = 0xF0
  · have hbits : v / 262144 = 0 := by omega
    exact ⟨0x90, 0xBF, by rw [if_pos hshort, hbits], by omega, by omega⟩
  · rw [if_neg hshort]
    by_cases hlast : v / 262144 + 240 = 0xF4
    · have hbits : v / 262144 = 4 := by omega
      refine ⟨0x80, 0x8F, ?_, by omega, by omega⟩
      rw [if_neg (by omega), if_pos hlast, hbits]
    · refine ⟨0x80, 0xBF, ?_, by omega, by omega⟩
      rw [if_pos (by omega), Nat.add_sub_cancel]

end Leads

/-! ### Characters and texts -/

/-- A byte that continues a character holds six of its bits. -/
theorem toNat_continuing (v : Nat) : (UInt8.ofNat (v % 64 + 128)).toNat = v % 64 + 128 := by
  rw [UInt8.toNat_ofNat']
  omega

theorem repairFrom_utf8EncodeChar (c : Char) (rest : Bytes) :
    repairFrom none (String.utf8EncodeChar c ++ rest) = c :: repairFrom none rest := by
  have hscalar : c.toNat < 0xD800 ∨ 0xDFFF < c.toNat ∧ c.toNat < 0x110000 := c.valid
  have hc : Char.ofNat c.toNat = c := Char.ofNat_toNat c
  rw [String.utf8EncodeChar, Char.toNat_val]
  generalize c.toNat = v at hscalar hc
  subst hc
  have hnext := toNat_continuing v
  have hmiddle := toNat_continuing (v / 64)
  split
  · rw [List.singleton_append, repairFrom, advance, begin?_ascii (by omega)]
    rfl
  · split
    · rw [List.cons_append, List.singleton_append,
        repairFrom_begun (begin?_two (by omega) (by omega)),
        repairFrom_last (by omega) (by omega), hnext]
      congr 2
      omega
    · split
      · obtain ⟨low, high, hlead, hlow, hhigh⟩ :=
          begin?_three (v := v) (by omega) (by omega) (by omega)
        rw [List.cons_append, List.cons_append, List.singleton_append, repairFrom_begun hlead,
          repairFrom_owed (by omega) (by omega) 0, repairFrom_last (by omega) (by omega), hnext,
          hmiddle]
        congr 2
        omega
      · obtain ⟨low, high, hlead, hlow, hhigh⟩ := begin?_four (v := v) (by omega) (by omega)
        have hupper := toNat_continuing (v / 4096)
        rw [List.cons_append, List.cons_append, List.cons_append, List.singleton_append,
          repairFrom_begun hlead, repairFrom_owed (by omega) (by omega) 1,
          repairFrom_owed (by omega) (by omega) 0, repairFrom_last (by omega) (by omega), hnext,
          hmiddle, hupper]
        congr 2
        omega

/-- In the bytes of a text nothing is replaced. -/
theorem repaired_ofString (s : String) : repaired (Bytes.ofString s) = s := by
  suffices h : ∀ chars : List Char,
      repairFrom none (chars.flatMap String.utf8EncodeChar) = chars by
    rw [repaired, Bytes.ofString_eq_flatMap, h, String.ofList_toList]
  intro chars
  induction chars with
  | nil => rfl
  | cons c chars ih => rw [List.flatMap_cons, repairFrom_utf8EncodeChar, ih]

end JobResults.Text
