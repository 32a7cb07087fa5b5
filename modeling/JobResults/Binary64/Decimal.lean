import JobResults.Binary64.Basic
import JobResults.Text.Integer

/-!
  # Doubles as decimal text

  A finite double is written with the fewest digits that read back as the same double and, among
  those, with the digits nearest to it.  The search is exact: for one digit, two digits and so on,
  the two neighbours of the double on that decimal grid are compared with the interval of reals
  that round to it.
-/

namespace JobResults.Binary64

/-- A positive decimal `0.d₁d₂… × 10 ^ point`. -/
structure Decimal where
  digits : List Char
  point : Int
  deriving DecidableEq, Repr

/-! ### Shortest digits -/

/-- The interval of reals that round to `m * 2 ^ e`, as a lower end, the value and an upper end
    over one denominator, and whether the ends belong to it. -/
def roundingInterval (m : Nat) (e : Int) : (Nat × Nat × Nat × Nat) × Bool :=
  let below := if m = 2 ^ 52 ∧ e > minExponent then 1 else 2
  let scale := 2 ^ e.toNat
  ((((4 * m - below) * scale), 4 * m * scale, (4 * m + 2) * scale, 4 * 2 ^ (-e).toNat), m % 2 == 0)

/-- The least `k`, counted up from `k₀`, with `num / den < 10 ^ k`. -/
def decimalPoint (num den : Nat) : (fuel : Nat) → (k : Int) → Int
  | 0, k => k
  | fuel + 1, k =>
    if num * 10 ^ (-k).toNat < den * 10 ^ k.toNat then k else decimalPoint num den fuel (k + 1)

/-- The neighbour of the value on the grid of `10 ^ (point - count)` that lies in the interval and
    is nearest to the value, the upper one at equal distance. -/
def nearestOnGrid (m : Nat) (e : Int) (point : Int) (count : Nat) : Option Nat :=
  let ((low, mid, high, den), closed) := roundingInterval m e
  let unit := point - count
  let num := 10 ^ unit.toNat * den
  let scale := 10 ^ (-unit).toNat
  let inside (c : Nat) : Bool :=
    let x := c * num
    if closed then low * scale ≤ x && x ≤ high * scale else low * scale < x && x < high * scale
  let c := mid * scale / num
  let below := inside c
  let above := inside (c + 1)
  if below && above then
    if 2 * (mid * scale - c * num) < num then some c else some (c + 1)
  else if below then some c
  else if above then some (c + 1)
  else none

/-- The first grid, from `count` digits on, with a neighbour in the interval. -/
def shortestFrom (m : Nat) (e : Int) (point : Int) : (fuel count : Nat) → Nat × Nat
  | 0, count => (0, count)
  | fuel + 1, count =>
    match nearestOnGrid m e point count with
    | some c => (c, count)
    | none => shortestFrom m e point fuel (count + 1)

/-- Removes zeros at the end of a string of digits. -/
def dropTrailingZeros (s : List Char) : List Char := (s.reverse.dropWhile (· == '0')).reverse

/-- The shortest decimal that reads back as the positive double `m * 2 ^ e`. -/
def shortest (m : Nat) (e : Int) : Decimal :=
  let (num, den) := ratio m e
  let point := decimalPoint num den 700 (-330)
  let (c, count) := shortestFrom m e point 20 1
  let digits := Nat.toDigits 10 c
  ⟨dropTrailingZeros digits, point + (Int.ofNat digits.length - Int.ofNat count)⟩

/-! ### Layouts -/

def zeros (n : Nat) : List Char := List.replicate n '0'

/-- Positional notation, without a point when there is no fraction. -/
def Decimal.positional (d : Decimal) : List Char :=
  if d.point ≤ 0 then '0' :: '.' :: zeros (-d.point).toNat ++ d.digits
  else
    let whole := d.point.toNat
    if d.digits.length ≤ whole then d.digits ++ zeros (whole - d.digits.length)
    else d.digits.take whole ++ '.' :: d.digits.drop whole

/-- Scientific notation with a signed exponent. -/
def Decimal.scientific (d : Decimal) : List Char :=
  let fraction := match d.digits with
    | [c] => [c]
    | c :: rest => c :: '.' :: rest
    | [] => []
  let exponent := d.point - 1
  let sign := if exponent < 0 then '-' else '+'
  fraction ++ 'e' :: sign :: Nat.toDigits 10 exponent.natAbs

/-- Adds `.0` to a text without a point. -/
def withPoint (s : List Char) : List Char := if s.contains '.' then s else s ++ ['.', '0']

/-- Writes the sign, the special values and zero, and leaves the rest to a layout. -/
def render (layout : Decimal → List Char) (zeroText : List Char) : Binary64 → String
  | .nan => "NaN"
  | .infinite negative => if negative then "-inf" else "inf"
  | .finite negative m e =>
    let body := if m = 0 then zeroText else layout (shortest m e)
    String.ofList (if negative then '-' :: body else body)

def plainText : Binary64 → String := render Decimal.positional ['0']

/-- Positional text; integers end in `.0`. -/
def pointedText : Binary64 → String := render (fun d => withPoint d.positional) ['0', '.', '0']

/-- Positional text from `10 ^ -5` up to `10 ^ 16`, scientific text outside. -/
def compactText : Binary64 → String :=
  render (fun d => if -5 < d.point ∧ d.point ≤ 16 then withPoint d.positional else d.scientific)
    ['0', '.', '0']

/-! ### Reading -/

/-- The digits at the start of a text, and the rest. -/
def spanDigits (s : List Char) : List Char × List Char :=
  (s.takeWhile Text.isDigit, s.dropWhile Text.isDigit)

/-- An exponent part, `e` or `E` with an optional sign and digits, up to the end of the text. -/
def exponent? : List Char → Option Int
  | [] => some 0
  | c :: rest =>
    if c = 'e' ∨ c = 'E' then
      match rest with
      | '-' :: digits => (Text.digits? digits).map fun n => -Int.ofNat n
      | '+' :: digits => (Text.digits? digits).map Int.ofNat
      | digits => (Text.digits? digits).map Int.ofNat
    else none

/-- A decimal numeral without sign: digits with an optional point, at least one digit in all, and
    an optional exponent. -/
def unsigned? (negative : Bool) (s : List Char) : Option Binary64 :=
  let (whole, rest) := spanDigits s
  let (fraction, rest) := match rest with
    | '.' :: rest => spanDigits rest
    | rest => ([], rest)
  if whole.isEmpty && fraction.isEmpty then none
  else
    (exponent? rest).map fun exponent =>
      ofDecimal negative (Text.digitsValue (whole ++ fraction)) (exponent - fraction.length)

/-- Reads a double: a numeral, `inf`, `infinity` or `nan` in letters of any case, after an optional
    sign. -/
def parse? (s : List Char) : Option Binary64 :=
  let (negative, body) := match s with
    | '-' :: rest => (true, rest)
    | '+' :: rest => (false, rest)
    | s => (false, s)
  let word := String.ofList (body.map Char.toLower)
  if word = "nan" then some .nan
  else if word = "inf" ∨ word = "infinity" then some (.infinite negative)
  else unsigned? negative body

end JobResults.Binary64
