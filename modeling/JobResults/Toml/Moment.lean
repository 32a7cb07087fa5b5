import JobResults.Text.Integer

/-!
  # Dates and times

  A moment is a date, a time of day, or both with or without the offset from universal time.  It is
  written in one way: the letter `T` between date and time, the fraction of a second without
  trailing zeros but with a digit, and `Z` for universal time.  Seconds and their fraction are
  written if they were given.
-/

namespace JobResults.Toml

/-- A day of the proleptic Gregorian calendar. -/
structure Date where
  year : Nat
  month : Nat
  day : Nat
  deriving DecidableEq, Repr

/-- A time of day, with seconds and their fraction if they are given.  A minute may have a leap
    second. -/
structure Time where
  hour : Nat
  minute : Nat
  second : Option Nat
  nanos : Option Nat
  deriving DecidableEq, Repr

/-- The offset from universal time. -/
inductive Zone where
  | universal
  | ahead (minutes : Int)
  deriving DecidableEq, Repr

/-- A date, a time, or both. -/
inductive Moment where
  | day (date : Date)
  | clock (time : Time)
  | unzoned (date : Date) (time : Time)
  | zoned (date : Date) (time : Time) (zone : Zone)
  deriving DecidableEq, Repr

/-! ### Writing -/

/-- At least `width` digits, with zeros in front. -/
def padded (width n : Nat) : List Char :=
  let digits := Nat.toDigits 10 n
  List.replicate (width - digits.length) '0' ++ digits

/-- A date as `YYYY-MM-DD`. -/
def Date.chars (d : Date) : List Char :=
  padded 4 d.year ++ ['-'] ++ padded 2 d.month ++ ['-'] ++ padded 2 d.day

/-- The digits of a fraction of a second behind their point. -/
def fractionChars (nanos : Nat) : List Char :=
  let digits := ((padded 9 nanos).reverse.dropWhile (· == '0')).reverse
  '.' :: if digits.isEmpty then ['0'] else digits

/-- A time as `HH:MM`, with seconds and a fraction if it has them. -/
def Time.chars (t : Time) : List Char :=
  padded 2 t.hour ++ [':'] ++ padded 2 t.minute ++
    t.second.elim [] (fun second => ':' :: padded 2 second) ++ t.nanos.elim [] fractionChars

/-- An offset as `Z` or `±HH:MM`. -/
def Zone.chars : Zone → List Char
  | universal => ['Z']
  | ahead minutes =>
    let n := minutes.natAbs
    (if minutes < 0 then '-' else '+') :: (padded 2 (n / 60) ++ [':'] ++ padded 2 (n % 60))

def Moment.text : Moment → String
  | day d => String.ofList d.chars
  | clock t => String.ofList t.chars
  | unzoned d t => String.ofList (d.chars ++ ['T'] ++ t.chars)
  | zoned d t z => String.ofList (d.chars ++ ['T'] ++ t.chars ++ z.chars)

/-! ### Reading -/

/-- A number of exactly `width` digits, and what follows. -/
def fixed (width : Nat) (s : List Char) : Option (Nat × List Char) :=
  let digits := s.take width
  if digits.length = width ∧ digits.all Text.isDigit then
    some (Text.digitsValue digits, s.drop width)
  else none

def after (c : Char) : List Char → Option (List Char)
  | [] => none
  | d :: rest => if d = c then some rest else none

def isLeap (year : Nat) : Bool := (year % 4 == 0 && year % 100 != 0) || year % 400 == 0

def daysIn (year month : Nat) : Nat :=
  if month = 2 then (if isLeap year then 29 else 28)
  else if month = 4 ∨ month = 6 ∨ month = 9 ∨ month = 11 then 30
  else 31

def date? (s : List Char) : Option (Date × List Char) := do
  let (year, s) ← fixed 4 s
  let (month, s) ← fixed 2 (← after '-' s)
  let (day, s) ← fixed 2 (← after '-' s)
  if 1 ≤ month ∧ month ≤ 12 ∧ 1 ≤ day ∧ day ≤ daysIn year month then
    return (⟨year, month, day⟩, s)
  else none

/-- The nanoseconds of a fraction, of which nine digits count, if there is one, and what
    follows. -/
def fraction? (s : List Char) : Option (Option Nat × List Char) :=
  match s with
  | '.' :: rest =>
    let digits := rest.takeWhile Text.isDigit
    if digits.isEmpty then none
    else
      let first := digits.take 9
      some (some (Text.digitsValue first * 10 ^ (9 - first.length)), rest.dropWhile Text.isDigit)
  | s => some (none, s)

/-- A time of day up to its minutes, and what follows. -/
def minutes? (s : List Char) : Option (Time × List Char) := do
  let (hour, s) ← fixed 2 s
  let (minute, s) ← fixed 2 (← after ':' s)
  if hour ≤ 23 ∧ minute ≤ 59 then return (⟨hour, minute, none, none⟩, s) else none

def time? (s : List Char) : Option (Time × List Char) := do
  let (time, s) ← minutes? s
  match s with
  | ':' :: s =>
    let (second, s) ← fixed 2 s
    let (nanos, s) ← fraction? s
    if second ≤ 60 then return (⟨time.hour, time.minute, some second, nanos⟩, s) else none
  | s => return (time, s)

/-- An offset behind its sign, and what follows. -/
def offset? (sign : Int) (s : List Char) : Option (Zone × List Char) := do
  let (hours, s) ← fixed 2 s
  let (minutes, s) ← fixed 2 (← after ':' s)
  if hours ≤ 23 ∧ minutes ≤ 59 then return (.ahead (sign * (hours * 60 + minutes : Nat)), s)
  else none

/-- A date and time, with the offset if there is one, and what follows. -/
def withZone? (d : Date) (t : Time) (s : List Char) : Option (Moment × List Char) :=
  let zoned (r : Zone × List Char) : Moment × List Char := (.zoned d t r.1, r.2)
  match s with
  | 'Z' :: rest => some (zoned (.universal, rest))
  | 'z' :: rest => some (zoned (.universal, rest))
  | '+' :: rest => (offset? 1 rest).map zoned
  | '-' :: rest => (offset? (-1) rest).map zoned
  | rest => some (.unzoned d t, rest)

/-- What may follow a date: a time behind a letter or a single space. -/
def afterDate? (d : Date) (s : List Char) : Option (Moment × List Char) :=
  match s with
  | ' ' :: rest =>
    if (fixed 2 rest).isSome then (time? rest).bind fun (t, rest) => withZone? d t rest
    else some (.day d, s)
  | c :: rest =>
    if c = 'T' ∨ c = 't' then (time? rest).bind fun (t, rest) => withZone? d t rest
    else some (.day d, s)
  | [] => some (.day d, [])

/-- Whether a text starts like a moment and not like a number. -/
def startsMoment (s : List Char) : Bool :=
  match fixed 4 s, fixed 2 s with
  | some (_, '-' :: _), _ => true
  | _, some (_, ':' :: _) => true
  | _, _ => false

def moment? (s : List Char) : Option (Moment × List Char) :=
  match fixed 4 s with
  | some (_, '-' :: _) => (date? s).bind fun (d, rest) => afterDate? d rest
  | _ => (time? s).map fun (t, rest) => (.clock t, rest)

end JobResults.Toml
