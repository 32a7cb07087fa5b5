import JobResults.Power

/-!
  # Decimal integers

  Readers for integers written in ASCII digits, with the ranges of 64-bit words.
-/

namespace JobResults.Text

/-- Whether a character is one of the ASCII digits. -/
def isDigit (c : Char) : Bool := '0' ≤ c && c ≤ '9'

def digitValue (c : Char) : Nat := c.toNat - '0'.toNat

/-- The number that a string of digits spells. -/
def digitsValue (s : List Char) : Nat := s.foldl (fun n c => 10 * n + digitValue c) 0

def digits? (s : List Char) : Option Nat :=
  if !s.isEmpty && s.all isDigit then some (digitsValue s) else none

/-- Digits, possibly after a plus sign, whose number is below `2 ^ 64`. -/
def unsigned64? (s : List Char) : Option UInt64 :=
  let body := match s with
    | '+' :: rest => rest
    | s => s
  match digits? body with
  | some n => if n < 2 ^ 64 then some (UInt64.ofNat n) else none
  | none => none

/-- Digits, possibly after a sign, whose number lies in `[-2 ^ 63, 2 ^ 63)`. -/
def signed64? (s : List Char) : Option Int64 :=
  let value : Option Int := match s with
    | '+' :: rest => (digits? rest).map Int.ofNat
    | '-' :: rest => (digits? rest).map fun n => -Int.ofNat n
    | s => (digits? s).map Int.ofNat
  match value with
  | some v => if -2 ^ 63 ≤ v ∧ v < 2 ^ 63 then some (Int64.ofInt v) else none
  | none => none

def decimal (v : Int) : String :=
  match v with
  | .ofNat n => String.ofList (Nat.toDigits 10 n)
  | .negSucc n => String.ofList ('-' :: Nat.toDigits 10 (n + 1))

end JobResults.Text
