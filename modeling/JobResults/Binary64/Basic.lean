import JobResults.Power

/-!
  # Binary floating point, exactly

  A double is a sign, a significand below `2 ^ 53` and a power of two.  Every operation computes
  the exact rational result and rounds it once, to the nearest double, a half to the even
  significand.
-/

namespace JobResults

/-- A double.  A finite one is `± significand * 2 ^ exponent`. -/
inductive Binary64 where
  | nan
  | infinite (negative : Bool)
  | finite (negative : Bool) (significand : Nat) (exponent : Int)
  deriving DecidableEq, Repr

namespace Binary64

def minExponent : Int := -1074

def maxExponent : Int := 971

def zero (negative : Bool) : Binary64 := .finite negative 0 minExponent

/-- The quotient and remainder of `num / (den * 2 ^ e)`, with the divisor. -/
def scaled (num den : Nat) (e : Int) : Nat × Nat × Nat :=
  let n := num * 2 ^ (-e).toNat
  let d := den * 2 ^ e.toNat
  (n / d, n % d, d)

/-- The exponent at which `num / den` has 53 binary digits, or the smallest one. -/
def exponentOf (num den : Nat) : Int :=
  let low : Int := Int.ofNat num.log2 - Int.ofNat den.log2 - 53
  let e := if (scaled num den low).1 < 2 ^ 53 then low else low + 1
  max e minExponent

/-- The double nearest to `± num / den`, a half going to the even significand. -/
def ofRatio (negative : Bool) (num den : Nat) : Binary64 :=
  if num = 0 then zero negative
  else
    let e := exponentOf num den
    let (q, r, d) := scaled num den e
    let q := if 2 * r > d || (2 * r == d && q % 2 == 1) then q + 1 else q
    let (q, e) := if q = 2 ^ 53 then (2 ^ 52, e + 1) else (q, e)
    if e > maxExponent then .infinite negative else .finite negative q e

/-- The double nearest to `± significand * 10 ^ exponent`.  Exponents far outside the range of
    doubles are settled without computing the power. -/
def ofDecimal (negative : Bool) (significand : Nat) (exponent : Int) : Binary64 :=
  let magnitude := exponent + (Nat.toDigits 10 significand).length
  if significand = 0 || magnitude < -400 then zero negative
  else if magnitude > 400 then .infinite negative
  else ofRatio negative (significand * 10 ^ exponent.toNat) (10 ^ (-exponent).toNat)

/-- The absolute value of a finite double as a fraction. -/
def ratio (significand : Nat) (exponent : Int) : Nat × Nat :=
  (significand * 2 ^ exponent.toNat, 2 ^ (-exponent).toNat)

/-- The rounded product of two finite doubles. -/
def mul : Binary64 → Binary64 → Binary64
  | .finite s m e, .finite t n f =>
    let (a, b) := ratio m e
    let (c, d) := ratio n f
    ofRatio (s != t) (a * c) (b * d)
  | _, _ => .nan

/-- The rounded quotient of two finite doubles, the second one not zero. -/
def div : Binary64 → Binary64 → Binary64
  | .finite s m e, .finite t n f =>
    let (a, b) := ratio m e
    let (c, d) := ratio n f
    if n = 0 then .nan else ofRatio (s != t) (a * d) (b * c)
  | _, _ => .nan

def neg : Binary64 → Binary64
  | .nan => .nan
  | .infinite s => .infinite (!s)
  | .finite s m e => .finite (!s) m e

def isZero : Binary64 → Bool
  | .finite _ 0 _ => true
  | _ => false

def isInfinite : Binary64 → Bool
  | .infinite _ => true
  | _ => false

def signed (negative : Bool) (n : Nat) : Int := if negative then -Int.ofNat n else Int.ofNat n

/-- A whole number made of a finite double, within `[lo, hi]`.  Not a number counts as zero. -/
def wholeWithin (round : (num den : Nat) → Nat) (lo hi : Int) : Binary64 → Int
  | .nan => 0
  | .infinite negative => if negative then lo else hi
  | .finite negative m e =>
    let (num, den) := ratio m e
    max lo (min hi (signed negative (round num den)))

/-- The nearest integer in `[lo, hi]`, a half going away from zero. -/
def roundWithin (lo hi : Int) (x : Binary64) : Int :=
  x.wholeWithin (fun num den => (2 * num + den) / (2 * den)) lo hi

/-- The integer without the fraction, in `[lo, hi]`. -/
def truncateWithin (lo hi : Int) (x : Binary64) : Int :=
  x.wholeWithin (fun num den => num / den) lo hi

end Binary64

end JobResults
