import JobResults.Bytes

/-!
  # Files

  A tree of files is the list of its entries.  A directory is there if it is an entry or if
  anything is in it.  On a path a step `.` stays, a step `..` goes back, and every step but the
  last one leads into a directory.  A path from the root of all files starts with the step `/`;
  a place above the working directory starts with as many steps `..`.
-/

namespace JobResults

/-- What stands at a place. -/
inductive Entry where
  | directory
  | file (content : Bytes)
  deriving DecidableEq, Repr

/-- The steps from the working directory to a place. -/
abbrev Place := List String

/-- The steps of a path, without those that stay. -/
def stepsOf (path : String) : List String :=
  let steps := ((path.toList.splitOn '/').map String.ofList).filter fun step =>
    step != "" && step != "."
  if path.startsWith "/" then "/" :: steps else steps

def pathOfSteps : List String → String
  | "/" :: steps => "/" ++ String.intercalate "/" steps
  | steps => String.intercalate "/" steps

def plainPath (path : String) : String := pathOfSteps (stepsOf path)

/-- The paths of the places on the way of a path, up to its end. -/
def waysOf (path : String) : List String :=
  (List.range (stepsOf path).length).map fun n => pathOfSteps ((stepsOf path).take (n + 1))

/-- The directory that a place is in.  The root of all files is in itself. -/
def parentOf (here : Place) : Place :=
  match here.getLast? with
  | none => [".."]
  | some ".." => here ++ [".."]
  | some "/" => here
  | some _ => here.dropLast

def afterStep (here : Place) (step : String) : Place :=
  if step = ".." then parentOf here else here ++ [step]

/-- The place at the end of a path whose steps all lead into directories. -/
def placeOf (path : String) : Place := (stepsOf path).foldl afterStep []

/-- A tree of files. -/
structure Files where
  entries : List (Place × Entry)
  deriving DecidableEq, Repr

namespace Files

def at? (files : Files) (place : Place) : Option Entry :=
  match files.entries.lookup place with
  | some entry => some entry
  | none =>
    if place = [] ∨ files.entries.any fun e => place.isPrefixOf e.1 then some .directory else none

def isDirectory (files : Files) (place : Place) : Bool := files.at? place == some .directory

/-- The place at the end of steps from a place on. -/
def walk (files : Files) (here : Place) : (steps : List String) → Option Place
  | [] => some here
  | step :: rest =>
    if files.isDirectory here then walk files (afterStep here step) rest else none

def wantsDirectory (path : String) : Bool :=
  path.endsWith "/" || path.endsWith "/." || path == "."

def find? (files : Files) (path : String) : Option Entry :=
  if path.isEmpty then none
  else
    match (files.walk [] (stepsOf path)).bind files.at? with
    | some (.file content) => if wantsDirectory path then none else some (.file content)
    | found => found

def read? (files : Files) (path : String) : Option Bytes :=
  match files.find? path with
  | some (.file content) => some content
  | _ => none

end Files

end JobResults
