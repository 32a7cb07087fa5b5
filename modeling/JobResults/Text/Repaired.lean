import JobResults.Bytes

/-!
  # Text out of any bytes

  Bytes that are not well-formed UTF-8 can still be shown as text: each longest run of bytes that
  could have begun a character, and each byte that could not, becomes one replacement character.
-/

namespace JobResults.Text

/-- What stands for bytes that are no character. -/
def replacement : Char := Char.ofNat 0xFFFD

/-- A character that has begun: how many bytes it still needs, the range of the next one, and the
    bits so far. -/
structure Begun where
  owed : Nat
  low : Nat
  high : Nat
  bits : Nat
  deriving DecidableEq, Repr

/-- What a byte at the start of a character gives: characters, or a character that has begun. -/
def begin? (b : UInt8) : List Char × Option Begun :=
  let n := b.toNat
  if n < 0x80 then ([Char.ofNat n], none)
  else if 0xC2 ≤ n ∧ n ≤ 0xDF then ([], some ⟨1, 0x80, 0xBF, n - 0xC0⟩)
  else if n = 0xE0 then ([], some ⟨2, 0xA0, 0xBF, 0⟩)
  else if n = 0xED then ([], some ⟨2, 0x80, 0x9F, 0xD⟩)
  else if 0xE1 ≤ n ∧ n ≤ 0xEF then ([], some ⟨2, 0x80, 0xBF, n - 0xE0⟩)
  else if n = 0xF0 then ([], some ⟨3, 0x90, 0xBF, 0⟩)
  else if 0xF1 ≤ n ∧ n ≤ 0xF3 then ([], some ⟨3, 0x80, 0xBF, n - 0xF0⟩)
  else if n = 0xF4 then ([], some ⟨3, 0x80, 0x8F, 4⟩)
  else ([replacement], none)

def advance (begun : Option Begun) (b : UInt8) : List Char × Option Begun :=
  match begun with
  | none => begin? b
  | some p =>
    let n := b.toNat
    if p.low ≤ n ∧ n ≤ p.high then
      let bits := p.bits * 64 + n % 64
      if p.owed ≤ 1 then ([Char.ofNat bits], none)
      else ([], some ⟨p.owed - 1, 0x80, 0xBF, bits⟩)
    else
      let (chars, begun) := begin? b
      (replacement :: chars, begun)

/-- The characters of bytes, after a character that may have begun. -/
def repairFrom : (begun : Option Begun) → Bytes → List Char
  | none, [] => []
  | some _, [] => [replacement]
  | begun, b :: rest =>
    let (chars, begun) := advance begun b
    chars ++ repairFrom begun rest

/-- The text of bytes, with what is no character replaced. -/
def repaired (b : Bytes) : String := String.ofList (repairFrom none b)

end JobResults.Text
