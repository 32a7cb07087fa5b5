import JobResults.Binary64.Decimal
import JobResults.Text.Quoted

/-!
  # What a reader finds in a data document

  A setting or message is written in a document that knows a few shapes of values.  A reader that
  expects one shape and finds another says so, in words that name both.
-/

namespace JobResults.Data

/-- The shape of a value in a document, with what is worth telling of it. -/
inductive Finding where
  | absent
  | boolean (value : Bool)
  | integer (value : Int)
  | float (value : Binary64)
  | text (value : String)
  | sequence
  | mapping
  deriving DecidableEq, Repr

/-- How a document format words an absent value and a floating-point number. -/
structure Wording where
  absent : String
  float : Binary64 → String

def Finding.describe (w : Wording) : Finding → String
  | .absent => w.absent
  | .boolean value => "boolean `" ++ toString value ++ "`"
  | .integer value => "integer `" ++ Text.decimal value ++ "`"
  | .float value => "floating point `" ++ w.float value ++ "`"
  | .text value => "string " ++ Text.quote value
  | .sequence => "sequence"
  | .mapping => "map"

/-- The complaint about a value of the wrong shape. -/
def wrongType (found expected : String) : String :=
  "invalid type: " ++ found ++ ", expected " ++ expected

end JobResults.Data
