import JobResults.Text.Blank
import JobResults.Text.LowerCase

/-!
  # Outcomes and the keys of a job

  A job ends in success or in failure.  Its result lives under a key made from its id; the ids of
  the jobs with one outcome live in a ranked set.  All keys share one namespace, so a job whose id
  is the name of an outcome shares its key with that outcome's set.
-/

namespace JobResults

/-- How a job ended. -/
inductive Outcome where
  | success
  | failed
  deriving DecidableEq, Repr

def keyspace : String := "tq:res:"

def resultKey (id : String) : String := keyspace ++ id

namespace Outcome

def name : Outcome → String
  | success => "success"
  | failed => "failed"

/-- The key of the ranked set of jobs with an outcome. -/
def indexKey (o : Outcome) : String := keyspace ++ o.name

def words : Outcome → List String
  | success => ["success", "succeeded", "ok"]
  | failed => ["failed", "failure", "error"]

/-- The name of no outcome, trimmed and in lower case. -/
structure Unknown where
  word : String
  deriving DecidableEq, Repr

def Unknown.message (e : Unknown) : String :=
  "unknown outcome '" ++ e.word ++ "', expected 'success' or 'failed'"

/-- Reads an outcome, in any case and with white space around it. -/
def parse (s : String) : Except Unknown Outcome :=
  let word := String.ofList (Text.lower (Text.trim s.toList))
  if success.words.contains word then .ok success
  else if failed.words.contains word then .ok failed
  else .error ⟨word⟩

end Outcome

end JobResults
