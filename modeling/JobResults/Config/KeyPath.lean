import JobResults.Config.Value

/-!
  # Paths to settings

  The name of a setting in a layer is a path: names joined by dots, and positions in lists in
  brackets, a negative one counting from the end.  A name that is no path stands for itself.
  Setting a value at a path merges tables field by field and replaces all else.
-/

namespace JobResults.Config

/-- A step of a path. -/
inductive Step where
  | field (name : String)
  | position (index : Int)
  deriving DecidableEq, Repr

/-! ### Reading paths -/

/-- Whether a character may stand in a name on a path. -/
def isNameChar (c : Char) : Bool :=
  Text.isDigit c || ('a' ≤ c && c ≤ 'z') || ('A' ≤ c && c ≤ 'Z') || c == '_' || c == '-'

/-- Whether a character may surround a position. -/
def isGap (c : Char) : Bool := c == ' ' || c == '\t'

def name? (s : List Char) : Option (Step × List Char) :=
  let name := s.takeWhile isNameChar
  if name.isEmpty then none else some (.field (String.ofList name), s.dropWhile isNameChar)

/-- A position up to its closing bracket, and what follows. -/
def position? (s : List Char) : Option (Step × List Char) :=
  let s := s.dropWhile isGap
  let (negative, s) := match s with
    | '-' :: rest => (true, rest)
    | s => (false, s)
  let digits := s.takeWhile Text.isDigit
  let value := Int.ofNat (Text.digitsValue digits)
  let index := if negative then -value else value
  match (s.dropWhile Text.isDigit).dropWhile isGap with
  | ']' :: rest =>
    if digits.isEmpty ∨ index < -2 ^ 63 ∨ 2 ^ 63 ≤ index then none
    else some (.position index, rest)
  | _ => none

def steps? : (fuel : Nat) → List Char → Option (List Step)
  | _, [] => some []
  | 0, _ => none
  | fuel + 1, '.' :: rest => do
    let (step, rest) ← name? rest
    return step :: (← steps? fuel rest)
  | fuel + 1, '[' :: rest => do
    let (step, rest) ← position? rest
    return step :: (← steps? fuel rest)
  | _, _ => none

def path? (s : List Char) : Option (List Step) := do
  let (step, rest) ← name? s
  return step :: (← steps? rest.length rest)

def pathOf (name : String) : List Step := (path? name.toList).getD [.field name]

/-! ### Setting values -/

namespace Value

mutual

/-- The first value with the second one set over it: tables are merged. -/
def merge (old : Value) : (new : Value) → Value
  | .table _ fields =>
    match old with
    | .table origin olds => .table origin (mergeFields olds fields)
    | _ => .table none (mergeFields [] fields)
  | new => new

/-- The first fields with the second ones set over them. -/
def mergeFields (olds : Fields) : (news : Fields) → Fields
  | [] => olds
  | (name, new) :: rest =>
    mergeFields (Data.assign name (merge ((olds.lookup name).getD absent) new) olds) rest

end

/-- The items with enough absent ones, behind them or in front, to have an item at an index, and
    the place of that item. -/
def stretch (index : Int) (items : List Value) : List Value × Nat :=
  if 0 ≤ index then (items ++ List.replicate (index.toNat + 1 - items.length) absent, index.toNat)
  else
    let back := index.natAbs
    if back ≤ items.length then (items, items.length - back)
    else (List.replicate (back - items.length) absent ++ items, 0)

/-- Changes the value at a path.  What stands in the way becomes a table or a list. -/
def change (f : Value → Value) : (path : List Step) → Value → Value
  | [], v => f v
  | .field name :: path, v =>
    let (origin, fields) := match v with
      | .table origin fields => (origin, fields)
      | _ => (none, [])
    .table origin (Data.assign name (change f path ((fields.lookup name).getD absent)) fields)
  | .position index :: path, v =>
    let (origin, items) := match v with
      | .list origin items => (origin, items)
      | _ => (none, [])
    let (items, place) := stretch index items
    .list origin (items.set place (change f path (items[place]?.getD absent)))

/-- Sets a value at the path that a name stands for. -/
def set (root : Value) (name : String) (value : Value) : Value :=
  change (fun old => merge old value) (pathOf name) root

def setAll (root : Value) (layer : Fields) : Value :=
  layer.foldl (fun root field => set root field.1 field.2) root

def root : Value := .table none []

end Value

end JobResults.Config
