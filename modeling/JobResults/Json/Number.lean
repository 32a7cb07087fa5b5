import JobResults.Binary64.Decimal

/-!
  # Numbers of JSON texts

  A number without fraction and exponent is an integer as long as it fits a 64-bit word, signed
  when it is negative.  Any other number is a double: the first digits that fit a word make a
  significand, the digits after them only move the point, and the significand is scaled by one
  rounded multiplication or division with a power of ten.  A number beyond the largest double is
  refused.
-/

namespace JobResults.Json

open Binary64 (spanDigits)

/-- A number as it is read. -/
inductive Number where
  | integer (value : Int)
  | float (value : Binary64)
  deriving DecidableEq, Repr

/-- Takes digits into a significand until the next one would not fit a 64-bit word.  Returns the
    significand and the digits that are left. -/
def takeDigits (significand : Nat) : List Char → Nat × List Char
  | [] => (significand, [])
  | c :: rest =>
    let next := significand * 10 + Text.digitValue c
    if next < 2 ^ 64 then takeDigits next rest else (significand, c :: rest)

/-- The nearest double to `10 ^ n`. -/
def powerOfTen (n : Nat) : Binary64 := Binary64.ofDecimal false 1 n

/-- Scales a double by `10 ^ exponent` in steps of at most 308, or refuses an overflow. -/
def scale : (fuel : Nat) → Binary64 → (exponent : Int) → Option Binary64
  | 0, f, _ => some f
  | fuel + 1, f, exponent =>
    if exponent.natAbs ≤ 308 then
      let power := powerOfTen exponent.natAbs
      if exponent ≥ 0 then
        let product := f.mul power
        if product.isInfinite then none else some product
      else some (f.div power)
    else if f.isZero then some f
    else if exponent ≥ 0 then none
    else scale fuel (f.div (powerOfTen 308)) (exponent + 308)

/-- The double `± significand * 10 ^ exponent`. -/
def ofParts (negative : Bool) (significand : Nat) (exponent : Int) : Option Binary64 :=
  (scale 8 (Binary64.ofRatio false significand 1) exponent).map fun f =>
    if negative then f.neg else f

def exponentPart (negative : Bool) (significand : Nat) (start : Int) (s : List Char) :
    Option (Binary64 × List Char) :=
  let (positive, s) := match s with
    | '+' :: rest => (true, rest)
    | '-' :: rest => (false, rest)
    | s => (true, s)
  let (digits, rest) := spanDigits s
  if digits.isEmpty then none
  else
    let n := Text.digitsValue digits
    if n ≥ 2 ^ 31 then
      if significand ≠ 0 && positive then none else some (Binary64.zero negative, rest)
    else
      let exponent := if positive then start + n else start - n
      (ofParts negative significand exponent).map fun f => (f, rest)

def fractionPart (negative : Bool) (significand : Nat) (start : Int) (s : List Char) :
    Option (Binary64 × List Char) :=
  let (digits, rest) := spanDigits s
  if digits.isEmpty then none
  else
    let (significand, ignored) := takeDigits significand digits
    let exponent := start - (digits.length - ignored.length : Nat)
    match rest with
    | c :: rest' =>
      if c = 'e' ∨ c = 'E' then exponentPart negative significand exponent rest'
      else (ofParts negative significand exponent).map fun f => (f, rest)
    | [] => (ofParts negative significand exponent).map fun f => (f, rest)

/-- A whole number without point and exponent. -/
def wholeNumber (negative : Bool) (significand : Nat) : Number :=
  if !negative then .integer significand
  else if 0 < significand ∧ significand ≤ 2 ^ 63 then .integer (-Int.ofNat significand)
  else .float (Binary64.ofRatio false significand 1).neg

/-- A number, its minus sign already read, and the text after it. -/
def number (negative : Bool) (s : List Char) : Option (Number × List Char) :=
  let (digits, rest) := spanDigits s
  match digits with
  | [] => none
  | '0' :: _ :: _ => none
  | digits =>
    let (significand, ignored) := takeDigits 0 digits
    let start : Int := ignored.length
    let whole : Option (Number × List Char) :=
      if ignored.isEmpty then some (wholeNumber negative significand, rest)
      else (ofParts negative significand start).map fun f => (.float f, rest)
    match rest with
    | '.' :: rest' => (fractionPart negative significand start rest').map fun r => (.float r.1, r.2)
    | c :: rest' =>
      if c = 'e' ∨ c = 'E' then
        (exponentPart negative significand start rest').map fun r => (.float r.1, r.2)
      else whole
    | [] => whole

end JobResults.Json
