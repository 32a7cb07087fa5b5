/-!
  # Errors of a store
-/

namespace JobResults

/-- What is wrong with a row of the embedded store. -/
inductive Corruption where
  | shortValue
  | malformedScoreEntry
  | malformedMemberScore
  deriving DecidableEq, Repr

def Corruption.reason : Corruption → String
  | shortValue => "value shorter than expiry header"
  | malformedScoreEntry => "malformed score entry"
  | malformedMemberScore => "malformed member score"

/-- What stands in the way of a directory. -/
inductive Obstacle where
  | file
  | fileOnTheWay
  deriving DecidableEq, Repr

/-- Why a call on a store failed. -/
inductive StoreError where
  /-- The remote server refused the call or its reply makes no sense. -/
  | remote
  /-- The address of the remote server leads nowhere. -/
  | badAddress
  /-- The directory around the embedded store cannot be made. -/
  | inputOutput (obstacle : Obstacle)
  /-- The embedded store cannot be opened at its place. -/
  | engine
  /-- A row of the embedded store cannot be decoded. -/
  | corrupt (key : String) (what : Corruption)
  | unavailable (why : String)
  | closed
  deriving DecidableEq, Repr

/-- The wording of an error, where this library words it. -/
def StoreError.message : StoreError → Option String
  | remote => none
  | badAddress => none
  | inputOutput _ => none
  | engine => none
  | corrupt key what => some ("Corrupt entry under key '" ++ key ++ "': " ++ what.reason)
  | unavailable why => some ("Store unavailable: " ++ why)
  | closed => some "Result store is shut down"

end JobResults
