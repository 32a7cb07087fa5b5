import JobResults.Json.Reader

/-!
  # Strings and keys in TOML

  A string stands in double quotes, with escapes, or in single quotes, as it is.  Three quotes
  instead of one allow line ends in it; the first line end is left out.  A key is bare or a string
  on one line, and dots join keys to a path.
-/

namespace JobResults.Toml

/-- Whether a character may stand for itself: no control character but the tab. -/
def isPlain (c : Char) : Bool := c == '\t' || (' ' ≤ c && c != '\x7f')

def isSpace (c : Char) : Bool := c == ' ' || c == '\t'

/-- The text without spaces and tabs in front. -/
def skipSpace (s : List Char) : List Char := s.dropWhile isSpace

/-- A reader's result with a character in front. -/
def cons (c : Char) (r : Option (List Char × List Char)) : Option (List Char × List Char) :=
  r.map fun r => (c :: r.1, r.2)

/-- The character that a backslash and a letter stand for. -/
def shortEscape? : Char → Option Char
  | 'b' => some '\x08'
  | 't' => some '\t'
  | 'n' => some '\n'
  | 'f' => some '\x0c'
  | 'r' => some '\r'
  | 'e' => some '\x1b'
  | '"' => some '"'
  | '\\' => some '\\'
  | _ => none

/-- The character with the number that hexadecimal digits spell. -/
def scalar? (digits : List Char) : Option Char := do
  let values ← digits.mapM Json.hexValue?
  let n := values.foldl (fun n d => 16 * n + d) 0
  if n < 0xD800 ∨ (0xE000 ≤ n ∧ n < 0x110000) then some (Char.ofNat n) else none

/-- The character with the number that a given count of hexadecimal digits spells, and what
    follows. -/
def numbered? (count : Nat) (s : List Char) : Option (Char × List Char) :=
  if s.length < count then none else (scalar? (s.take count)).map fun c => (c, s.drop count)

/-- A character behind a backslash, and what follows. -/
def escape? (s : List Char) : Option (Char × List Char) :=
  match s with
  | 'x' :: rest => numbered? 2 rest
  | 'u' :: rest => numbered? 4 rest
  | 'U' :: rest => numbered? 8 rest
  | c :: rest => (shortEscape? c).map fun c => (c, rest)
  | [] => none

/-- The string up to its closing double quote, and what follows. -/
def basicBody : (fuel : Nat) → List Char → Option (List Char × List Char)
  | 0, _ => none
  | _, [] => none
  | fuel + 1, c :: rest =>
    if c = '"' then some ([], rest)
    else if c = '\\' then (escape? rest).bind fun r => cons r.1 (basicBody fuel r.2)
    else if isPlain c then cons c (basicBody fuel rest)
    else none

/-- The string up to its closing single quote, and what follows. -/
def literalBody : List Char → Option (List Char × List Char)
  | [] => none
  | c :: rest =>
    if c = '\'' then some ([], rest)
    else if isPlain c then cons c (literalBody rest)
    else none

/-- The text from its first character on that is no space, tab or line end. -/
def skipLines : List Char → List Char
  | '\r' :: '\n' :: rest => skipLines rest
  | '\n' :: rest => skipLines rest
  | c :: rest => if isSpace c then skipLines rest else c :: rest
  | [] => []

def lineEnd? : List Char → Option (List Char)
  | '\r' :: '\n' :: rest => some rest
  | '\n' :: rest => some rest
  | _ => none

/-- The end of a string of many lines: three quotes, of which up to two more in front belong to
    the string. -/
def closing? (quote : Char) (s : List Char) : Option (List Char × List Char) :=
  let quotes := (s.take 5).takeWhile (· == quote)
  if quotes.length < 3 then none
  else some (quotes.drop 3, s.drop quotes.length)

/-- The string of many lines up to its closing quotes, and what follows.  A backslash at the end of
    a line joins it to the next text. -/
def linesBody (quote : Char) : (fuel : Nat) → List Char → Option (List Char × List Char)
  | 0, _ => none
  | _, [] => none
  | fuel + 1, c :: rest =>
    match closing? quote (c :: rest), lineEnd? (c :: rest) with
    | some r, _ => some r
    | none, some rest => cons '\n' (linesBody quote fuel rest)
    | none, none =>
      if c = '\\' ∧ quote = '"' then
        if (lineEnd? (skipSpace rest)).isSome then linesBody quote fuel (skipLines rest)
        else (escape? rest).bind fun r => cons r.1 (linesBody quote fuel r.2)
      else if isPlain c then cons c (linesBody quote fuel rest)
      else none

def dropLineEnd (s : List Char) : List Char := (lineEnd? s).getD s

def string? (s : List Char) : Option (List Char × List Char) :=
  match s with
  | '"' :: '"' :: '"' :: rest => linesBody '"' (rest.length + 1) (dropLineEnd rest)
  | '\'' :: '\'' :: '\'' :: rest => linesBody '\'' (rest.length + 1) (dropLineEnd rest)
  | '"' :: rest => basicBody (rest.length + 1) rest
  | '\'' :: rest => literalBody rest
  | _ => none

/-! ### Keys -/

/-- Whether a character may stand in a bare key. -/
def isBare (c : Char) : Bool :=
  Text.isDigit c || ('a' ≤ c && c ≤ 'z') || ('A' ≤ c && c ≤ 'Z') || c == '_' || c == '-'

def key? (s : List Char) : Option (String × List Char) :=
  match s with
  | '"' :: rest => (basicBody (rest.length + 1) rest).map fun r => (String.ofList r.1, r.2)
  | '\'' :: rest => (literalBody rest).map fun r => (String.ofList r.1, r.2)
  | s =>
    let bare := s.takeWhile isBare
    if bare.isEmpty then none else some (String.ofList bare, s.dropWhile isBare)

/-- The keys in front of the last one, the last one, and what follows. -/
def path? : (fuel : Nat) → List Char → Option (List String × String × List Char)
  | 0, _ => none
  | fuel + 1, s => do
    let (key, rest) ← key? (skipSpace s)
    match skipSpace rest with
    | '.' :: rest =>
      let (keys, last, rest) ← path? fuel rest
      return (key :: keys, last, rest)
    | rest => return ([], key, rest)

end JobResults.Toml
