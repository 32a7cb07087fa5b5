import JobResults.Config.KeyPath
import JobResults.Duration.Data

/-!
  # Faults of settings

  A value that is not what its setting needs is a fault.  The complaint names the value, the path
  to it and, for conversions of single values, where the value came from.
-/

namespace JobResults.Config

/-- What a setting needs. -/
inductive Need where
  | integer
  | text
  | sequence
  | storeSection
  | resultsSection
  deriving DecidableEq, Repr

def Need.wording : Need → String
  | integer => "an integer"
  | text => "a string"
  | sequence => "a sequence"
  | storeSection => "struct StoreConfig"
  | resultsSection => "struct ResultsConfig"

/-- What is wrong with a value. -/
inductive Cause where
  | mismatch (found : Data.Finding) (need : Need)
  /-- An integer below zero where none is allowed. -/
  | negative (value : Int64)
  | duration (error : Duration.DataError)
  | unknownBackend (name : String)
  | backendShape
  deriving DecidableEq, Repr

/-- How configuration words an absent value and a floating-point number. -/
def wording : Data.Wording := ⟨"unit value", Binary64.pointedText⟩

def Cause.message : Cause → String
  | mismatch found need => Data.wrongType (found.describe wording) need.wording
  | negative value =>
    Data.wrongType ("64-bit integer `" ++ Text.decimal value.toInt ++ "`")
      "an unsigned 64 bit or less integer"
  | duration error => error.message wording
  | unknownBackend name => "enum StoreBackend does not have variant constructor " ++ name
  | backendShape =>
    "value of enum StoreBackend should be represented by either string or table with exactly one key"

/-- A cause with the path to the value, and the value's origin if the complaint names it. -/
structure Fault where
  path : List Step
  cause : Cause
  origin : Option Origin
  deriving DecidableEq, Repr

def pathText : (first : Bool) → List Step → String
  | _, [] => ""
  | first, .field name :: rest => (if first then "" else ".") ++ name ++ pathText false rest
  | _, .position index :: rest => "[" ++ Text.decimal index ++ "]" ++ pathText false rest

namespace Fault

def plain (cause : Cause) : Fault := ⟨[], cause, none⟩

def under (step : Step) (f : Fault) : Fault := { f with path := step :: f.path }

def message (f : Fault) : String :=
  f.cause.message ++ " for key `" ++ pathText true f.path ++ "`" ++
    f.origin.elim "" fun o => " in " ++ o.text

end Fault

end JobResults.Config
