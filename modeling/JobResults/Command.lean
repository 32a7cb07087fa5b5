import JobResults.Bytes
import JobResults.Duration.Basic
import JobResults.Score

/-!
  # Commands

  The five commands that change a store of values and ranked sets.  A key holds a value or a set,
  never both: writing a value drops the set and adding a member drops the value.
-/

namespace JobResults

/-- A command that changes the store. -/
inductive Command where
  /-- Writes a value, with an expiry if one is given. -/
  | set (key : String) (payload : Bytes) (ttl : Option Duration)
  | delete (key : String)
  /-- Gives a member of a set a score, over the one it has. -/
  | rank (key member : String) (score : Score)
  | unrank (key member : String)
  /-- Removes the members with a score in a closed range. -/
  | unrankRange (key : String) (min max : Score)
  deriving DecidableEq, Repr

namespace Command

def key : Command → String
  | set key _ _ => key
  | delete key => key
  | rank key _ _ => key
  | unrank key _ => key
  | unrankRange key _ _ => key

def name : Command → String
  | set .. => "SET"
  | delete .. => "DEL"
  | rank .. => "ZADD"
  | unrank .. => "ZREM"
  | unrankRange .. => "ZREMRANGEBYSCORE"

end Command

end JobResults
