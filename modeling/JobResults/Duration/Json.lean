import JobResults.Duration.Data
import JobResults.Json.Reader

/-!
  # Durations in JSON texts

  The head of the value decides: a container is refused before its items are read, and text after
  a good value is refused last.
-/

namespace JobResults.Duration

/-- Why a JSON text is no duration. -/
inductive JsonError where
  | data (error : DataError)
  | malformed
  deriving DecidableEq, Repr

def ofJson (s : String) : Except JsonError Duration :=
  match Json.head s.toList with
  | none => .error .malformed
  | some (head, rest) =>
    match ofFinding head.finding with
    | .error e => .error (.data e)
    | .ok d => if (Json.skipSpace rest).isEmpty then .ok d else .error .malformed

end JobResults.Duration
