import JobResults.Binary64.Decimal
import JobResults.Json.Reader

/-!
  # Numbers in TOML

  Integers are decimal with an optional sign, or hexadecimal, octal or binary without one, and lie
  in the range of 64-bit words.  Floats have a fraction, an exponent or both, or are `inf` or
  `nan`; one beyond the largest double is refused.  Digits may be parted by single underscores, and
  a decimal number has no leading zeros.
-/

namespace JobResults.Toml

/-- A number. -/
inductive Number where
  | integer (value : Int64)
  | float (value : Binary64)
  deriving DecidableEq, Repr

/-- Whether every underscore stands between two digits, where `digit` tells whether a digit came
    just before. -/
def partedWell : (digit : Bool) → List Char → Bool
  | digit, [] => digit
  | digit, '_' :: rest => digit && partedWell false rest
  | _, _ :: rest => partedWell true rest

/-- Whether a character belongs to a run of digits. -/
def inRun (isDigit : Char → Bool) (c : Char) : Bool := isDigit c || c == '_'

/-- One or more digits, without the underscores that part them, and what follows. -/
def run (isDigit : Char → Bool) (s : List Char) : Option (List Char × List Char) :=
  let digits := s.takeWhile (inRun isDigit)
  if partedWell false digits then some (digits.filter (· != '_'), s.dropWhile (inRun isDigit))
  else none

def word? (v : Int) : Option Number :=
  if -2 ^ 63 ≤ v ∧ v < 2 ^ 63 then some (.integer (Int64.ofInt v)) else none

def signed (negative : Bool) (n : Nat) : Int := if negative then -Int.ofNat n else Int.ofNat n

/-- The value of a digit in a base of up to 16. -/
def digitBelow? (base : Nat) (c : Char) : Option Nat :=
  (Json.hexValue? c).filter (· < base)

/-- An integer in a base of up to 16, and what follows. -/
def inBase (base : Nat) (s : List Char) : Option (Number × List Char) := do
  let (digits, rest) ← run (fun c => (digitBelow? base c).isSome) s
  let value := digits.foldl (fun n c => base * n + (digitBelow? base c).getD 0) 0
  return (← word? (Int.ofNat value), rest)

def finite? (negative : Bool) (digits : List Char) (exponent : Int) : Option Number :=
  let value := Binary64.ofDecimal negative (Text.digitsValue digits) exponent
  if value.isInfinite then none else some (.float value)

/-- The exponent part at the start of a text, and what follows. -/
def exponentPart (s : List Char) : Option (Option Int × List Char) :=
  match s with
  | c :: rest =>
    if c = 'e' ∨ c = 'E' then
      let (negative, rest) := match rest with
        | '-' :: rest => (true, rest)
        | '+' :: rest => (false, rest)
        | rest => (false, rest)
      (run Text.isDigit rest).map fun (digits, rest) =>
        (some (signed negative (Text.digitsValue digits)), rest)
    else some (none, s)
  | [] => some (none, [])

/-- The fraction at the start of a text, and what follows. -/
def fractionPart (s : List Char) : Option (Option (List Char) × List Char) :=
  match s with
  | '.' :: rest => (run Text.isDigit rest).map fun (digits, rest) => (some digits, rest)
  | s => some (none, s)

/-- A decimal number behind its sign, and what follows. -/
def decimalNumber (negative : Bool) (s : List Char) : Option (Number × List Char) := do
  let (whole, rest) ← run Text.isDigit s
  if 1 < whole.length ∧ whole.head? = some '0' then none
  else
    let (fraction, rest) ← fractionPart rest
    let (exponent, rest) ← exponentPart rest
    match fraction, exponent with
    | none, none => return (← word? (signed negative (Text.digitsValue whole)), rest)
    | fraction, exponent =>
      let fraction := fraction.getD []
      let number ← finite? negative (whole ++ fraction) (exponent.getD 0 - fraction.length)
      return (number, rest)

/-- A number behind its sign, and what follows. -/
def afterSign (negative : Bool) (s : List Char) : Option (Number × List Char) :=
  match s with
  | 'i' :: 'n' :: 'f' :: rest => some (.float (.infinite negative), rest)
  | 'n' :: 'a' :: 'n' :: rest => some (.float .nan, rest)
  | s => decimalNumber negative s

def number? (s : List Char) : Option (Number × List Char) :=
  match s with
  | '0' :: 'x' :: rest => inBase 16 rest
  | '0' :: 'o' :: rest => inBase 8 rest
  | '0' :: 'b' :: rest => inBase 2 rest
  | '-' :: rest => afterSign true rest
  | '+' :: rest => afterSign false rest
  | s => afterSign false s

end JobResults.Toml
