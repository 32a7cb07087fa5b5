import JobResults.Config.Decode
import JobResults.Config.Source
import JobResults.Config.Validity

/-!
  # Loading settings

  The layers are the defaults, the file and the environment, each one over those before it.  The
  settings that come out are read, then given the password, then checked.  Where no path is given,
  the environment is first completed from the file `.env`, and it may name the path.
-/

namespace JobResults.Config

/-- Why settings cannot be loaded. -/
inductive LoadError where
  /-- The file is not of the format that its name tells. -/
  | malformedFile
  | fault (fault : Fault)
  | invalid (reason : Invalid)
  deriving DecidableEq, Repr

/-- The wording of an error, where this library words it. -/
def LoadError.message : LoadError → Option String
  | malformedFile => none
  | fault f => some ("Failed to load configuration: " ++ f.message)
  | invalid reason => some ("Configuration validation failed: " ++ reason.message)

/-- The layer of the file at a path.  Without a file it is empty. -/
def fileLayer (files : Files) (path : String) : Except LoadError Fields :=
  match Source.find? files path with
  | none => .ok []
  | some source =>
    match source.fields? with
    | some fields => .ok fields
    | none => .error .malformedFile

/-- The layers of file and environment in one table. -/
def merged (file environment : Fields) : Value :=
  (Value.root.setAll file).setAll environment

/-- The settings that layers give, with a password. -/
def resolve (file environment : Fields) (password : Option String) :
    Except LoadError Settings := do
  let s ← (settings (merged file environment)).mapError .fault
  return { s with store := { s.store with password := password } }

def checked (s : Settings) : Except LoadError Settings :=
  match complaint s with
  | none => .ok s
  | some reason => .error (.invalid reason)

/-- Loads the settings with the file at a path. -/
def loadFrom (files : Files) (env : Environment) (path : String) :
    Except LoadError Settings := do
  let file ← fileLayer files path
  let s ← resolve file (environmentLayer env) (password env)
  checked s

/-- The variable that names the path of the file. -/
def pathVariable : String := "RESULTBOX_CONFIG"

/-- The path of the file, unless another one is named. -/
def defaultPath : String := "config/resultbox.toml"

def variablesPath : String := ".env"

/-- The environment with the variables of the file `.env`. -/
def completed (files : Files) (env : Environment) : Environment :=
  match files.read? variablesPath with
  | some content => withFile env content
  | none => env

/-- The path of the file that the environment names. -/
def pathIn (env : Environment) : String := (env.lookup pathVariable).getD defaultPath

/-- Loads the settings with the file that the environment names. -/
def load (files : Files) (env : Environment) : Except LoadError Settings :=
  let env := completed files env
  loadFrom files env (pathIn env)

end JobResults.Config
