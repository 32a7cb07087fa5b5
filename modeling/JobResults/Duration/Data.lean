import JobResults.Data.Finding
import JobResults.Duration.Text

/-!
  # Durations in documents

  In a document a duration is a text or a whole number of seconds that is not negative.
-/

namespace JobResults.Duration

/-- Why a value in a document is no duration. -/
inductive DataError where
  | text (error : ParseError)
  | negative (seconds : Int)
  | shape (found : Data.Finding)
  deriving DecidableEq, Repr

def expectation : String :=
  "a duration as string (e.g., \"250ms\", \"24h\") or integer seconds"

def DataError.message (w : Data.Wording) : DataError → String
  | text error => error.message
  | negative seconds => "duration must not be negative: " ++ Text.decimal seconds
  | shape found => Data.wrongType (found.describe w) expectation

def ofFinding : Data.Finding → Except DataError Duration
  | .text s => (parse s).mapError .text
  | .integer n =>
    if n < 0 then .error (.negative n) else .ok (ofSeconds (UInt64.ofNat n.toNat))
  | found => .error (.shape found)

end JobResults.Duration
