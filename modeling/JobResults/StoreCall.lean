import JobResults.Command

/-!
  # Calls on a store

  Every store answers the same calls.  `execute` runs a batch of commands as a whole; the commands
  by themselves are batches of one.
-/

namespace JobResults

/-- A call on a store. -/
inductive StoreCall where
  | get (key : String)
  /-- The members with a score in a closed range, the highest score first. -/
  | range (key : String) (min max : Score)
  | execute (commands : List Command)
  | ping
  | evict
  | close
  deriving DecidableEq, Repr

/-- The answer to a call. -/
inductive StoreAnswer where
  | payload (value : Option Bytes)
  | members (list : List String)
  | evicted (count : Nat)
  | done
  deriving DecidableEq, Repr

end JobResults
