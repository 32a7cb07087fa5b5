import JobResults.Data.Finding
import JobResults.Json.Number

/-!
  # JSON texts

  `head` reads a scalar or the bracket that opens a container; `document` reads a whole text.  A
  text is refused when it is malformed, when it goes on after its value, or when containers are
  nested 128 deep.
-/

namespace JobResults.Json

/-- A JSON value.  An object keeps its members in the order of the text. -/
inductive Value where
  | null
  | boolean (value : Bool)
  | number (value : Number)
  | text (value : String)
  | array (items : List Value)
  | object (members : List (String × Value))
  deriving Repr

/-! ### Tokens -/

def isSpace (c : Char) : Bool := c == ' ' || c == '\n' || c == '\t' || c == '\r'

def skipSpace (s : List Char) : List Char := s.dropWhile isSpace

def hexValue? (c : Char) : Option Nat :=
  if Text.isDigit c then some (Text.digitValue c)
  else if 'a' ≤ c ∧ c ≤ 'f' then some (c.toNat - 'a'.toNat + 10)
  else if 'A' ≤ c ∧ c ≤ 'F' then some (c.toNat - 'A'.toNat + 10)
  else none

def hex4? (a b c d : Char) : Option Nat := do
  let a ← hexValue? a
  let b ← hexValue? b
  let c ← hexValue? c
  let d ← hexValue? d
  return ((a * 16 + b) * 16 + c) * 16 + d

/-- The character that a backslash and a letter stand for. -/
def shortEscape? : Char → Option Char
  | '"' => some '"'
  | '\\' => some '\\'
  | '/' => some '/'
  | 'b' => some '\x08'
  | 'f' => some '\x0c'
  | 'n' => some '\n'
  | 'r' => some '\r'
  | 't' => some '\t'
  | _ => none

/-- The text up to the closing quote, with its escapes resolved, and what follows.  A surrogate
    counts only as the first half of a pair. -/
def stringBody : List Char → Option (List Char × List Char)
  | [] => none
  | '"' :: rest => some ([], rest)
  | '\\' :: 'u' :: a :: b :: c :: d :: '\\' :: 'u' :: e :: f :: g :: h :: rest => do
    let high ← hex4? a b c d
    if 0xD800 ≤ high ∧ high < 0xDC00 then
      let low ← hex4? e f g h
      if 0xDC00 ≤ low ∧ low < 0xE000 then
        let (s, rest) ← stringBody rest
        return (Char.ofNat (0x10000 + (high - 0xD800) * 0x400 + (low - 0xDC00)) :: s, rest)
      else none
    else if 0xDC00 ≤ high ∧ high < 0xE000 then none
    else
      let (s, rest) ← stringBody ('\\' :: 'u' :: e :: f :: g :: h :: rest)
      return (Char.ofNat high :: s, rest)
  | '\\' :: 'u' :: a :: b :: c :: d :: rest => do
    let n ← hex4? a b c d
    if 0xD800 ≤ n ∧ n < 0xE000 then none
    else
      let (s, rest) ← stringBody rest
      return (Char.ofNat n :: s, rest)
  | '\\' :: c :: rest => do
    let c ← shortEscape? c
    let (s, rest) ← stringBody rest
    return (c :: s, rest)
  | c :: rest =>
    if c.toNat < 0x20 ∨ c = '\\' then none
    else do
      let (s, rest) ← stringBody rest
      return (c :: s, rest)
termination_by s => s.length

/-- What a value starts with: a whole scalar, or the bracket of a container. -/
inductive Head where
  | null
  | boolean (value : Bool)
  | number (value : Number)
  | text (value : String)
  | array
  | object
  deriving DecidableEq, Repr

/-- The head of the value at the start of a text, and what follows. -/
def head (s : List Char) : Option (Head × List Char) :=
  match skipSpace s with
  | 'n' :: 'u' :: 'l' :: 'l' :: rest => some (.null, rest)
  | 't' :: 'r' :: 'u' :: 'e' :: rest => some (.boolean true, rest)
  | 'f' :: 'a' :: 'l' :: 's' :: 'e' :: rest => some (.boolean false, rest)
  | '"' :: rest => (stringBody rest).map fun r => (.text (String.ofList r.1), r.2)
  | '[' :: rest => some (.array, rest)
  | '\x7b' :: rest => some (.object, rest)
  | '-' :: rest => (number true rest).map fun r => (.number r.1, r.2)
  | rest => (number false rest).map fun r => (.number r.1, r.2)

/-- A head in the words of a reader of documents. -/
def Head.finding : Head → Data.Finding
  | .null => .absent
  | .boolean value => .boolean value
  | .number (.integer value) => .integer value
  | .number (.float value) => .float value
  | .text value => .text value
  | .array => .sequence
  | .object => .mapping

/-- How JSON words an absent value and a floating-point number. -/
def wording : Data.Wording := ⟨"null", Binary64.compactText⟩

/-! ### Documents -/

mutual

/-- A value inside `depth` more levels of containers. -/
def value : (fuel depth : Nat) → List Char → Option (Value × List Char)
  | 0, _, _ => none
  | fuel + 1, depth, s =>
    match head s with
    | none => none
    | some (.null, rest) => some (.null, rest)
    | some (.boolean b, rest) => some (.boolean b, rest)
    | some (.number n, rest) => some (.number n, rest)
    | some (.text t, rest) => some (.text t, rest)
    | some (.array, rest) =>
      if depth ≤ 1 then none
      else
        match skipSpace rest with
        | ']' :: rest => some (.array [], rest)
        | rest => (items fuel (depth - 1) rest).map fun r => (.array r.1, r.2)
    | some (.object, rest) =>
      if depth ≤ 1 then none
      else
        match skipSpace rest with
        | '\x7d' :: rest => some (.object [], rest)
        | rest => (members fuel (depth - 1) rest).map fun r => (.object r.1, r.2)

/-- The items of an array up to its closing bracket. -/
def items : (fuel depth : Nat) → List Char → Option (List Value × List Char)
  | 0, _, _ => none
  | fuel + 1, depth, s =>
    match value fuel depth s with
    | none => none
    | some (v, rest) =>
      match skipSpace rest with
      | ']' :: rest => some ([v], rest)
      | ',' :: rest => (items fuel depth rest).map fun r => (v :: r.1, r.2)
      | _ => none

/-- The members of an object up to its closing bracket. -/
def members : (fuel depth : Nat) → List Char → Option (List (String × Value) × List Char)
  | 0, _, _ => none
  | fuel + 1, depth, s =>
    match skipSpace s with
    | '"' :: rest =>
      match stringBody rest with
      | none => none
      | some (name, rest) =>
        match skipSpace rest with
        | ':' :: rest =>
          match value fuel depth rest with
          | none => none
          | some (v, rest) =>
            match skipSpace rest with
            | '\x7d' :: rest => some ([(String.ofList name, v)], rest)
            | ',' :: rest =>
              (members fuel depth rest).map fun r => ((String.ofList name, v) :: r.1, r.2)
            | _ => none
        | _ => none
    | _ => none

end

def document (s : List Char) : Option Value :=
  match value (3 * s.length + 3) 128 s with
  | some (v, rest) => if (skipSpace rest).isEmpty then some v else none
  | none => none

end JobResults.Json
