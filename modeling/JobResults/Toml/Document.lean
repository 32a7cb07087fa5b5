import JobResults.Toml.Quoted
import JobResults.Toml.Table

/-!
  # TOML documents

  A document is a list of lines, each blank, a pair, or a header that opens the table to which the
  pairs after it belong.  A document is refused as a whole.
-/

namespace JobResults.Toml

/-! ### Between tokens -/

/-- What follows spaces, line ends and comments. -/
def skipGap : (comment : Bool) → List Char → Option (List Char)
  | _, [] => some []
  | _, '\r' :: '\n' :: rest => skipGap false rest
  | _, '\n' :: rest => skipGap false rest
  | true, c :: rest => if isPlain c then skipGap true rest else none
  | false, c :: rest =>
    if isSpace c then skipGap false rest
    else if c = '#' then skipGap true rest
    else some (c :: rest)

/-- What follows the end of a line, in front of which spaces and a comment may stand. -/
def endLine : (comment : Bool) → List Char → Option (List Char)
  | _, [] => some []
  | _, '\r' :: '\n' :: rest => some rest
  | _, '\n' :: rest => some rest
  | true, c :: rest => if isPlain c then endLine true rest else none
  | false, c :: rest =>
    if isSpace c then endLine false rest
    else if c = '#' then endLine true rest
    else none

/-! ### Values -/

/-- A value that is no container, and what follows. -/
def simple? (s : List Char) : Option (Value × List Char) :=
  match s with
  | 't' :: 'r' :: 'u' :: 'e' :: rest => some (.boolean true, rest)
  | 'f' :: 'a' :: 'l' :: 's' :: 'e' :: rest => some (.boolean false, rest)
  | '"' :: _ => (string? s).map fun r => (.text (String.ofList r.1), r.2)
  | '\'' :: _ => (string? s).map fun r => (.text (String.ofList r.1), r.2)
  | s =>
    if startsMoment s then (moment? s).map fun r => (.moment r.1, r.2)
    else (number? s).map fun r => (.number r.1, r.2)

mutual

/-- A value inside `depth` more levels of containers, and what follows. -/
def value : (fuel depth : Nat) → List Char → Option (Value × List Char)
  | 0, _, _ => none
  | fuel + 1, depth, s =>
    match s with
    | '[' :: rest =>
      if depth = 0 then none
      else (items fuel (depth - 1) rest).map fun r => (.array r.1, r.2)
    | '\x7b' :: rest =>
      if depth = 0 then none
      else (pairs fuel (depth - 1) [] rest).map fun r => (.table .inline r.1, r.2)
    | s => simple? s

/-- The items of an array up to its closing bracket, and what follows. -/
def items : (fuel depth : Nat) → List Char → Option (List Value × List Char)
  | 0, _, _ => none
  | fuel + 1, depth, s =>
    match skipGap false s with
    | none => none
    | some (']' :: rest) => some ([], rest)
    | some s =>
      match value fuel depth s with
      | none => none
      | some (v, rest) =>
        match skipGap false rest with
        | some (']' :: rest) => some ([v], rest)
        | some (',' :: rest) => (items fuel depth rest).map fun r => (v :: r.1, r.2)
        | _ => none

/-- The pairs of a table in braces up to its closing brace, and what follows. -/
def pairs : (fuel depth : Nat) → Fields → List Char → Option (Fields × List Char)
  | 0, _, _, _ => none
  | fuel + 1, depth, fields, s =>
    match skipGap false s with
    | none => none
    | some ('\x7d' :: rest) => some (fields, rest)
    | some s =>
      match path? (s.length + 1) s with
      | some (path, key, '=' :: rest) =>
        match value fuel depth (skipSpace rest) with
        | none => none
        | some (v, rest) =>
          match addPair path key v fields, skipGap false rest with
          | some fields, some ('\x7d' :: rest) => some (fields, rest)
          | some fields, some (',' :: rest) => pairs fuel depth fields rest
          | _, _ => none
      | _ => none

end

def maxDepth : Nat := 80

/-! ### Lines -/

/-- What has been read: the fields so far, and the path of the last header. -/
structure Progress where
  fields : Fields
  header : List String

/-- Reads a header behind its opening bracket, and what follows its closing one. -/
def header (p : Progress) (s : List Char) : Option (Progress × List Char) :=
  match s with
  | '[' :: s => do
    let (path, key, rest) ← path? (s.length + 1) s
    let rest ← after ']' (← after ']' rest)
    let fields ← openItem path key p.fields
    return (⟨fields, path ++ [key]⟩, rest)
  | s => do
    let (path, key, rest) ← path? (s.length + 1) s
    let rest ← after ']' rest
    let fields ← openTable path key p.fields
    return (⟨fields, path ++ [key]⟩, rest)

def pair (p : Progress) (s : List Char) : Option (Progress × List Char) := do
  let (path, key, rest) ← path? (s.length + 1) s
  let rest ← after '=' rest
  let (v, rest) ← value (3 * s.length + 3) maxDepth (skipSpace rest)
  let fields ← addPairIn p.header path key v p.fields
  return ({ p with fields := fields }, rest)

/-- Reads lines up to the end of the document. -/
def lines : (fuel : Nat) → Progress → List Char → Option Fields
  | 0, _, _ => none
  | fuel + 1, p, s =>
    match skipGap false s with
    | none => none
    | some [] => some p.fields
    | some (c :: rest) => do
      let (p, rest) ← if c = '[' then header p rest else pair p (c :: rest)
      lines fuel p (← endLine false rest)

def document (s : List Char) : Option Fields :=
  let s := match s with
    | '\uFEFF' :: rest => rest
    | s => s
  lines (s.length + 1) ⟨[], []⟩ s

end JobResults.Toml
