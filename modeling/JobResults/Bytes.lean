import JobResults.Power

/-!
  # Byte strings

  Rows, payloads and file contents are lists of bytes.  This module holds the two readings that
  the library needs of them:

    * fixed-width big-endian numbers (`bigEndian`, `ofBigEndian`), mutually inverse below the
      width's bound, so that a stored number comes back as it was;
    * UTF-8 text (`ofString`, `toString?`), where reading accepts exactly what writing produces
      (`toString?_eq_some_iff`).
-/

namespace JobResults

/-- A string of bytes.  Its order is the lexicographic one. -/
abbrev Bytes := List UInt8

namespace Bytes

/-! ### Big-endian numbers -/

/-- The last `width` digits of `n` in base 256, the most significant first. -/
def bigEndian : (width : Nat) → (n : Nat) → Bytes
  | 0, _ => []
  | width + 1, n => UInt8.ofNat (n / 256 ^ width) :: bigEndian width n

/-- The number that a string of bytes spells in base 256, the most significant digit first. -/
def ofBigEndian : Bytes → Nat
  | [] => 0
  | b :: rest => b.toNat * 256 ^ rest.length + ofBigEndian rest

@[simp] theorem length_bigEndian (width n : Nat) : (bigEndian width n).length = width := by
  induction width with
  | zero => rfl
  | succ width ih => simp [bigEndian, ih]

theorem ofBigEndian_lt (b : Bytes) : ofBigEndian b < 256 ^ b.length := by
  induction b with
  | nil => simp [ofBigEndian]
  | cons c rest ih =>
    have hc : c.toNat < 256 := c.toNat_lt
    have : c.toNat * 256 ^ rest.length ≤ 255 * 256 ^ rest.length :=
      Nat.mul_le_mul_right _ (by omega)
    simp only [ofBigEndian, List.length_cons, Nat.pow_succ]
    omega

/-- Reading back what was written gives the number modulo the width's bound. -/
theorem ofBigEndian_bigEndian (width n : Nat) :
    ofBigEndian (bigEndian width n) = n % 256 ^ width := by
  induction width with
  | zero => simp [bigEndian, ofBigEndian, Nat.mod_one]
  | succ width ih =>
    have h : n % 256 ^ (width + 1) = n % 256 ^ width + 256 ^ width * (n / 256 ^ width % 256) := by
      rw [Nat.pow_succ, Nat.mod_mul]
    simp [bigEndian, ofBigEndian, ih, h, Nat.mul_comm, Nat.add_comm]

/-- Every string of bytes is what is written for the number it spells. -/
theorem bigEndian_ofBigEndian (b : Bytes) : bigEndian b.length (ofBigEndian b) = b := by
  suffices h : ∀ (b : Bytes) (k : Nat), bigEndian b.length (k * 256 ^ b.length + ofBigEndian b) = b by
    simpa using h b 0
  intro b
  induction b with
  | nil => intro k; rfl
  | cons c rest ih =>
    intro k
    have hlt := ofBigEndian_lt rest
    have hpos : 0 < 256 ^ rest.length := Nat.pow_pos (by omega)
    have hsplit : k * 256 ^ (rest.length + 1) + (c.toNat * 256 ^ rest.length + ofBigEndian rest)
        = (k * 256 + c.toNat) * 256 ^ rest.length + ofBigEndian rest := by
      rw [Nat.pow_succ, Nat.add_mul, Nat.mul_assoc, Nat.mul_comm 256, Nat.add_assoc]
    have hdiv : ((k * 256 + c.toNat) * 256 ^ rest.length + ofBigEndian rest) / 256 ^ rest.length
        = k * 256 + c.toNat := by
      rw [Nat.mul_comm, Nat.mul_add_div hpos, Nat.div_eq_of_lt hlt, Nat.add_zero]
    simp only [List.length_cons, bigEndian, ofBigEndian, hsplit, hdiv, ih]
    congr 1
    apply UInt8.toNat_inj.1
    have := c.toNat_lt
    simp

/-! ### Text -/

def ofString (s : String) : Bytes := s.toByteArray.data.toList

/-- The text that a string of bytes holds, if it is well-formed UTF-8. -/
def toString? (b : Bytes) : Option String := String.fromUTF8? ⟨b.toArray⟩

/-- Reading accepts exactly the UTF-8 forms of texts. -/
theorem toString?_eq_some_iff {b : Bytes} {s : String} : toString? b = some s ↔ b = ofString s := by
  unfold toString? ofString String.fromUTF8?
  constructor
  · intro h
    split at h
    · cases h; simp [String.fromUTF8]
    · cases h
  · rintro rfl
    have : (⟨s.toByteArray.data.toList.toArray⟩ : ByteArray) = s.toByteArray := by simp
    simp only [this]
    simp [s.isValidUTF8, String.fromUTF8]

@[simp] theorem toString?_ofString (s : String) : toString? (ofString s) = some s :=
  toString?_eq_some_iff.2 rfl

theorem ofString_inj {s t : String} (h : ofString s = ofString t) : s = t := by
  have := toString?_ofString s
  rw [h, toString?_ofString] at this
  exact (Option.some.inj this).symm

end Bytes

end JobResults
