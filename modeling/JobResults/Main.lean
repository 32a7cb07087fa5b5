import JobResults.CommandLine.Execution
import JobResults.Embedded.Image
import Std.Async.Signal
import Std.Internal.UV.System
import Std.Time.DateTime.Timestamp

/-!
  # The program

  The program gathers what an invocation can see of the machine, namely the variables of the
  environment, the files that it looks for, the rows of the embedded store and the clocks, and
  hands it to `JobResults.CommandLine`.  What comes back is written and printed.  The rows of an
  embedded store lie in one file below its path.
-/

namespace JobResults.Program

open CommandLine (Invocation Exit)

/-! ### What is gathered -/

def environment : IO Config.Environment := do
  return (← Std.Internal.UV.System.osEnviron).toList

/-- The readings of the clocks since a start, and the score clock. -/
def clocks (start : Nat) : IO (Now × ManualClock) := do
  let wall := (← Std.Time.Timestamp.now).toNanosecondsSinceUnixEpoch.toInt
  return (⟨(← IO.monoNanosNow) - start, UInt64.ofNat wall.toNat⟩, ⟨Score.clamp wall⟩)

def entryAt (path : String) : IO (Option Entry) := do
  try
    if ← (← IO.FS.realPath path).isDir then return some .directory
    return some (.file (← IO.FS.readBinFile path).toList)
  catch _ => return none

def entriesOn (path : String) : IO (List (Place × Entry)) :=
  (waysOf path).filterMapM fun way => do
    return (← entryAt way).map fun entry => (placeOf way, entry)

def filesAt (paths : List String) : IO Files := do
  return ⟨(← paths.mapM entriesOn).flatten⟩

def settingsFiles (env : Config.Environment) (i : Invocation) : IO Files := do
  let named ← entriesOn Config.variablesPath
  let path := i.configPath.getD (Config.pathIn (Config.completed ⟨named⟩ env))
  let files ← filesAt (path :: Config.Format.all.map (Config.besideName path))
  return ⟨named ++ files.entries⟩

/-! ### The embedded store -/

/-- The file with the rows of the embedded store at a path. -/
def imagePath (path : String) : String := path ++ "/rows"

/-- The disk with the embedded store at a path. -/
def withStore (files : Files) (path : String) : IO Disk := do
  let d : Disk := ⟨⟨files.entries ++ (← entriesOn path)⟩, []⟩
  match ← entryAt (imagePath path) with
  | some (.file image) =>
    match Embedded.Tables.ofImage? image with
    | some tables => return d.keep path tables
    | none => throw (IO.userError ("the rows in " ++ imagePath path ++ " cannot be read"))
  | _ => return d

/-- Writes the embedded store at a path, if the disk has one. -/
def writeStore (d : Disk) (path : String) : IO Unit := do
  match d.tables path with
  | none => return
  | some tables =>
    IO.FS.createDirAll path
    IO.FS.writeBinFile (imagePath path) ⟨tables.image.toArray⟩

/-! ### What is done -/

/-- Whether the program was told to stop, as an action that can be asked again and again. -/
def stopSignal : IO (IO Bool) := do
  let terminate ← (← Std.Async.Signal.Waiter.mk .sigterm false).wait
  let interrupt ← (← Std.Async.Signal.Waiter.mk .sigint false).wait
  return do
    if ← IO.hasFinished terminate then return true
    IO.hasFinished interrupt

/-- The store after the time up to new readings of the clocks. -/
def reach (s : ResultStore) (now : Now) (clock : ManualClock) : ResultStore :=
  let elapsed := now.monotonic - s.engine.now.monotonic
  let s := { s with engine := { s.engine with clock := clock } }
  let s := s.sleep elapsed
  { s with engine := { s.engine with now := now } }

/-- Keeps the loops of a store going until the program is told to stop. -/
partial def keepRunning (start : Nat) (stopped : IO Bool) (s : ResultStore) : IO ResultStore := do
  IO.sleep 50
  let (now, clock) ← clocks start
  let s := reach s now clock
  if ← stopped then return s
  keepRunning start stopped s

/-- Runs the background loops of a store until the program is told to stop. -/
def serve (start : Nat) (d : Disk) (settings : Config.Settings) : IO Exit := do
  let (now, clock) ← clocks start
  match CommandLine.openFor d settings now clock .run with
  | .error report => return .failure report d
  | .ok s =>
    match CommandLine.perform s .run with
    | (s, .ok output) =>
      let s ← keepRunning start (← stopSignal) s
      return CommandLine.finish d settings.store (s, .ok output)
    | failed => return CommandLine.finish d settings.store failed

def invoke (env : Config.Environment) (i : Invocation) (arguments : List String) : IO Exit := do
  let start ← IO.monoNanosNow
  let files ← settingsFiles env i
  match CommandLine.loadSettings files env i with
  | .error e => return .failure (CommandLine.ofLoadError e) (.ofFiles files)
  | .ok settings =>
    let path := settings.store.embeddedPath
    let d ← if settings.store.backend = .embedded then withStore files path else pure (.ofFiles files)
    let exit ← if i.action = .run then serve start d settings else do
      let (now, clock) ← clocks start
      pure (CommandLine.run d env now clock arguments)
    writeStore exit.disk path
    return exit

def run (arguments : List String) : IO UInt32 := do
  let env ← environment
  let exit ← match CommandLine.parse arguments with
    | .ok i => invoke env i arguments
    | .error _ => do
      let (now, clock) ← clocks 0
      pure (CommandLine.run (.ofFiles ⟨[]⟩) env now clock arguments)
  (← IO.getStdout).putStr exit.output
  (← IO.getStderr).putStr exit.complaint
  return UInt32.ofNat exit.status

end JobResults.Program

def main (arguments : List String) : IO UInt32 := JobResults.Program.run arguments
