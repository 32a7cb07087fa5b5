import JobResults.CommandLine.Report
import JobResults.Config.Backend
import JobResults.Json.Writer
import JobResults.Text.Repaired

/-!
  # Execution

  An invocation loads the settings, opens the backend and carries out its action.  All actions but
  `run` work on a store that writes at once and has no background loops; `run` starts the store
  as configured and shuts it down when it is told to stop.
-/

namespace JobResults.CommandLine

/-- How an invocation ends: its status, what it prints, what it complains about, and the disk. -/
structure Exit where
  status : Nat
  output : String
  complaint : String
  disk : Disk
  deriving DecidableEq

namespace Exit

def success (output : String) (d : Disk) : Exit := ⟨0, output, "", d⟩

def complain (complaint : String) (d : Disk) : Exit := ⟨1, "", complaint ++ "\n", d⟩

def failure (report : String) (d : Disk) : Exit := complain ("Error: " ++ report) d

end Exit

/-- What an operation prints, or why it failed. -/
abbrev Result := ResultStore × Except ResultError String

def printing (text : α → String) (r : ResultStore × Except ResultError α) : Result :=
  (r.1, r.2.map text)

def purgeLine (r : PurgeReport) : String :=
  "purged outcome entries up to " ++ Text.decimal r.cutoff.toInt ++ " (" ++ toString r.evicted ++
    " expired results evicted)\n"

def listing (json : Bool) (ids : List String) : String :=
  if json then Json.strings ids ++ "\n" else String.join (ids.map (· ++ "\n"))

def perform (s : ResultStore) : Action → Result
  | .get id => printing (fun payload => Text.repaired payload ++ "\n") (s.get id)
  | .list outcome json => printing (listing json) (s.list outcome)
  | .delete id => printing (fun _ => "") (s.deleteJob id)
  | .purge window => printing purgeLine (s.purgeOlderThan window)
  | .run => printing (fun _ => "") s.healthCheck

def onceOptions (o : Options) : Options := { expiry := o.expiry }

/-- Shuts a store down after its work, and tells how it went. -/
def finish (d : Disk) (settings : Config.StoreSettings) (r : Result) : Exit :=
  let leave (s : ResultStore) : Disk := Config.closeBackend d settings s.engine.gate.backend
  match r with
  | (s, .error (.notFound id)) =>
    .complain ((ResultError.notFound id).message.getD "") (leave s.shutdown.1)
  | (s, .error e) => .failure (ofResultError e) (leave { s with engine := s.drop })
  | (s, .ok output) =>
    match s.shutdown with
    | (s, .ok _) => .success output (leave s)
    | (s, .error e) => .failure (ofResultError e) (leave s)

/-- Opens the store for an action, or reports why that fails. -/
def openFor (d : Disk) (settings : Config.Settings) (now : Now) (clock : ManualClock) :
    Action → Except String ResultStore
  | .run => (Config.connect d settings now clock).mapError ofResultError
  | _ =>
    match Config.openBackend d settings.store with
    | .error e => .error (ofStoreError e)
    | .ok b => .ok (.start b (onceOptions settings.results) now clock)

def execute (d : Disk) (settings : Config.Settings) (now : Now) (clock : ManualClock)
    (action : Action) : Exit :=
  match openFor d settings now clock action with
  | .error report => .failure report d
  | .ok s => finish d settings.store (perform s action)

def loadSettings (files : Files) (env : Config.Environment) (i : Invocation) :
    Except Config.LoadError Config.Settings :=
  match i.configPath with
  | some path => Config.loadFrom files env path
  | none => Config.load files env

def run (d : Disk) (env : Config.Environment) (now : Now) (clock : ManualClock)
    (arguments : List String) : Exit :=
  match parse arguments with
  | .error (.help topic) => .success (helpText topic) d
  | .error e => ⟨2, "", e.message, d⟩
  | .ok i =>
    match loadSettings d.files env i with
    | .error e => .failure (ofLoadError e) d
    | .ok settings => execute d settings now clock i.action

end JobResults.CommandLine
