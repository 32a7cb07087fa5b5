import JobResults.Bytes
import JobResults.Config.Environment
import JobResults.Text.Alphanumeric
import JobResults.Text.Blank

/-!
  # Files of variables

  A file may define variables for the environment, a line each, possibly behind the word `export`.
  A value may be quoted, and a quoted value may go on over several lines.  Outside single quotes a
  backslash escapes a character, and a dollar sign stands for the value of a variable.

  A variable that the environment has keeps its value, and so does one that was defined before.
  The first line that cannot be read ends the file.
-/

namespace JobResults.Config

/-! ### Lines -/

/-- Where a line ends inside a quotation, a comment or an escape. -/
inductive LineState where
  | complete
  | escape
  | single
  | singleEscape
  | double
  | doubleEscape
  | blank
  | comment
  deriving DecidableEq, Repr

namespace LineState

/-- What a character opens outside quotations. -/
def opening : Char → LineState
  | '\\' => escape
  | '"' => double
  | '\'' => single
  | _ => complete

/-- Whether a character is white space inside a line. -/
def isGap (c : Char) : Bool := Text.isBlank c && c != '\n' && c != '\r'

def next : LineState → Char → LineState
  | complete, c => if isGap c then blank else opening c
  | escape, _ => complete
  | single, '\\' => singleEscape
  | single, '\'' => complete
  | single, _ => single
  | singleEscape, _ => single
  | double, '\\' => doubleEscape
  | double, '"' => complete
  | double, _ => double
  | doubleEscape, _ => double
  | blank, '#' => comment
  | blank, c => opening c
  | comment, _ => comment

/-- The state at the end of a line, and the line without its comment. -/
def scan : LineState → List Char → LineState × List Char
  | state, [] => (state, [])
  | state, c :: rest =>
    match next state c with
    | comment => (comment, [])
    | state =>
      let (state, kept) := scan state rest
      (state, c :: kept)

end LineState

def physicalLines : Bytes → List Bytes
  | [] => []
  | b :: rest =>
    match b == 10, physicalLines rest with
    | true, lines => [b] :: lines
    | false, [] => [[b]]
    | false, line :: lines => (b :: line) :: lines

def withoutEnd (s : List Char) : List Char :=
  match s.reverse with
  | '\n' :: '\r' :: rest => rest.reverse
  | '\n' :: rest => rest.reverse
  | _ => s

def isComment (s : List Char) : Bool := (Text.trimStart s).head? == some '#'

/-- The lines of a file, where a quotation joins lines.  What cannot be read is `none`. -/
def logicalLines : LineState → (before : List Char) → List Bytes → List (Option (List Char))
  | state, _, [] => if state = .complete then [] else [none]
  | state, before, line :: rest =>
    match Bytes.toString? line with
    | none => [none]
    | some line =>
      let joined := before ++ line.toList
      if isComment joined then some [] :: logicalLines .complete [] rest
      else
        match LineState.scan state line.toList with
        | (.complete, _) => some (withoutEnd joined) :: logicalLines .complete [] rest
        | (.comment, kept) => some (before ++ kept) :: logicalLines .complete [] rest
        | (state, _) => logicalLines state joined rest

/-! ### Values -/

/-- What the reader of a value is in the middle of. -/
inductive Phase where
  | plain
  | single
  | escaped
  | naming (name : List Char)
  | braced (name : List Char)
  | ending
  deriving DecidableEq, Repr

/-- A value that is being read. -/
structure Reading where
  phase : Phase
  quoted : Bool
  output : List Char
  deriving DecidableEq, Repr

namespace Reading

def push (r : Reading) (c : Char) : Reading := { r with phase := .plain, output := r.output ++ [c] }

def become (r : Reading) (phase : Phase) : Reading := { r with phase := phase }

/-- The value of a variable, empty if there is none. -/
def valueIn (env : Environment) (name : List Char) : List Char :=
  ((env.lookup (String.ofList name)).getD "").toList

def substitute (env : Environment) (r : Reading) (name : List Char) : Reading :=
  { r with phase := .plain, output := r.output ++ valueIn env name }

/-- Reads a character where nothing special is going on. -/
def plainStep (r : Reading) (c : Char) : Reading :=
  if c = '$' then r.become (.naming [])
  else if c = '\\' then r.become .escaped
  else if c = '"' then { r with quoted := !r.quoted }
  else if r.quoted then r.push c
  else if c = '\'' then r.become .single
  else if c = ' ' ∨ c = '\t' then r.become .ending
  else r.push c

def step (env : Environment) (r : Reading) (c : Char) : Option Reading :=
  match r.phase with
  | .plain => some (r.plainStep c)
  | .single => some (if c = '\'' then r.become .plain else { r with output := r.output ++ [c] })
  | .escaped =>
    if c = 'n' then some (r.push '\n')
    else if ['\\', '\'', '"', '$', ' '].contains c then some (r.push c)
    else none
  | .naming name =>
    if Text.isAlphanumeric c then some (r.become (.naming (name ++ [c])))
    else if c = '\x7b' ∧ name = [] then some (r.become (.braced []))
    else
      let r := r.substitute env name
      some (if c = '$' then r.become (.naming []) else r.push c)
  | .braced name =>
    some (if c = '\x7d' then r.substitute env name else r.become (.braced (name ++ [c])))
  | .ending => if c = ' ' ∨ c = '\t' then some r else none

/-- The value, unless a quotation or a brace is still open. -/
def finish (env : Environment) (r : Reading) : Option (List Char) :=
  if r.quoted then none
  else
    match r.phase with
    | .single => none
    | .braced _ => none
    | .naming name => some (r.output ++ valueIn env name)
    | _ => some r.output

def run (env : Environment) : Reading → List Char → Option (List Char)
  | r, [] => r.finish env
  | r, c :: rest =>
    if r.phase = .ending ∧ c = '#' then r.finish env
    else (r.step env c).bind fun r => run env r rest

end Reading

/-! ### Definitions -/

/-- Whether a name may start with a character. -/
def startsName (c : Char) : Bool := ('a' ≤ c && c ≤ 'z') || ('A' ≤ c && c ≤ 'Z') || c == '_'

/-- Whether a name may go on with a character. -/
def continuesName (c : Char) : Bool := startsName c || Text.isDigit c || c == '.'

/-- A name, and what follows it and white space. -/
def nameBefore? (s : List Char) : Option (List Char × List Char) :=
  if s.head?.any startsName then
    some (s.takeWhile continuesName, Text.trimStart (s.dropWhile continuesName))
  else none

/-- A name that an equals sign follows, possibly behind the word `export`, and what follows. -/
def definiendum? (s : List Char) : Option (List Char × List Char) := do
  let (name, rest) ← nameBefore? s
  match rest with
  | '=' :: rest => return (name, rest)
  | rest =>
    if name = "export".toList then
      match ← nameBefore? rest with
      | (name, '=' :: rest) => return (name, rest)
      | _ => none
    else none

/-- The definition on a line, if there is one.  A line that cannot be read gives nothing. -/
def definition? (env : Environment) (line : List Char) : Option (Option (String × String)) :=
  let line := Text.trim line
  if line.isEmpty ∨ isComment line then some none
  else do
    let (name, rest) ← definiendum? line
    let rest := Text.trimStart rest
    let value ← if rest.isEmpty ∨ isComment rest then some []
      else Reading.run env ⟨.plain, false, []⟩ rest
    return some (String.ofList name, String.ofList value)

def define (env : Environment) (name value : String) : Environment :=
  if (env.lookup name).isSome then env else env ++ [(name, value)]

def defineAll (env : Environment) : List (Option (List Char)) → Environment
  | [] => env
  | none :: _ => env
  | some line :: rest =>
    match definition? env line with
    | none => env
    | some none => defineAll env rest
    | some (some (name, value)) => defineAll (define env name value) rest

def withoutMark : Bytes → Bytes
  | 0xEF :: 0xBB :: 0xBF :: rest => rest
  | b => b

/-- The environment with the variables that a file defines. -/
def withFile (env : Environment) (content : Bytes) : Environment :=
  defineAll env (logicalLines .complete [] (physicalLines (withoutMark content)))

end JobResults.Config
