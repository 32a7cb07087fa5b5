import JobResults.Duration.Basic
import JobResults.Text.Blank
import JobResults.Text.Integer
import JobResults.Text.LowerCase

/-!
  # Durations as text

  A duration is written as a count and the largest unit that divides it, such as `90m`.  It is
  read from a plain count of seconds, or from a count and the name of a unit with white space
  allowed around both, in any case.  Reading never wraps: a product beyond a 64-bit word of
  nanoseconds is refused.
-/

namespace JobResults

/-- The units in which a duration may be written. -/
inductive TimeUnit where
  | nanosecond | microsecond | millisecond | second | minute | hour | day
  deriving DecidableEq, Repr

namespace TimeUnit

def nanos : TimeUnit → Nat
  | nanosecond => 1
  | microsecond => 1000
  | millisecond => 1000000
  | second => 1000000000
  | minute => 60000000000
  | hour => 3600000000000
  | day => 86400000000000

def names : TimeUnit → List String
  | nanosecond => ["ns"]
  | microsecond => ["us", "\u00b5s"]
  | millisecond => ["ms"]
  | second => ["s", "sec", "secs"]
  | minute => ["m", "min", "mins"]
  | hour => ["h", "hr", "hrs"]
  | day => ["d", "day", "days"]

def all : List TimeUnit := [nanosecond, microsecond, millisecond, second, minute, hour, day]

def ofName? (name : String) : Option TimeUnit := all.find? fun u => u.names.contains name

/-- The units that are written, the longest first, with their names. -/
def written : List (TimeUnit × String) :=
  [(day, "d"), (hour, "h"), (minute, "m"), (second, "s"), (millisecond, "ms"), (nanosecond, "ns")]

end TimeUnit

namespace Duration

/-! ### Writing -/

/-- The text of a count of nanoseconds in the first unit of the list that divides it. -/
def textIn (n : Nat) : List (TimeUnit × String) → String
  | [] => Text.decimal n ++ "ns"
  | (unit, name) :: rest =>
    if n % unit.nanos = 0 then Text.decimal ↑(n / unit.nanos) ++ name else textIn n rest

/-- The text of a duration: a count and the longest unit that divides it. -/
def text (d : Duration) : String :=
  if d.nanos = 0 then "0s" else textIn d.nanos TimeUnit.written

/-! ### Reading -/

/-- Why a text is no duration. -/
inductive ParseError where
  /-- The text is neither a number nor a number followed by something. -/
  | format (text : String)
  | number
  | unit (name : String)
  | range (text : String)
  deriving DecidableEq, Repr

def ParseError.message : ParseError → String
  | format text => "Invalid duration format: " ++ text
  | number => "Invalid number: number too large to fit in target type"
  | unit name => "Invalid unit: " ++ name
  | range text => "Duration out of range: " ++ text

/-- Reads a text that is trimmed and in lower case. -/
def parseNormal (s : List Char) : Except ParseError Duration :=
  match Text.unsigned64? s with
  | some n => .ok (ofSeconds n)
  | none =>
    let count := s.takeWhile Text.isDigit
    let rest := s.dropWhile Text.isDigit
    if count.isEmpty || rest.isEmpty then .error (.format (String.ofList s))
    else
      match Text.unsigned64? count with
      | none => .error .number
      | some n =>
        let name := String.ofList (Text.trim rest)
        match TimeUnit.ofName? name with
        | none => .error (.unit name)
        | some unit =>
          if h : n.toNat * unit.nanos < 2 ^ 64 then .ok (ofWord _ h)
          else .error (.range (String.ofList s))

/-- Reads a duration: a count of seconds, or a count and a unit. -/
def parse (s : String) : Except ParseError Duration :=
  parseNormal (Text.lower (Text.trim s.toList))

end Duration

end JobResults
