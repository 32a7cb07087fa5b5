/-!
  # Counters

  What the store has done so far, in eight 64-bit counters that wrap around.
-/

namespace JobResults

/-- The counters of a result store. -/
structure Metrics where
  resultsWritten : UInt64 := 0
  outcomesRecorded : UInt64 := 0
  jobsDeleted : UInt64 := 0
  batchesFlushed : UInt64 := 0
  commandsFlushed : UInt64 := 0
  flushFailures : UInt64 := 0
  purgeCycles : UInt64 := 0
  purgeFailures : UInt64 := 0
  deriving DecidableEq, Repr, Inhabited

namespace Metrics

def resultWritten (m : Metrics) : Metrics := { m with resultsWritten := m.resultsWritten + 1 }

def outcomeRecorded (m : Metrics) : Metrics := { m with outcomesRecorded := m.outcomesRecorded + 1 }

def jobDeleted (m : Metrics) : Metrics := { m with jobsDeleted := m.jobsDeleted + 1 }

/-- One more batch was flushed, with a number of commands. -/
def batchFlushed (m : Metrics) (commands : Nat) : Metrics :=
  { m with
    batchesFlushed := m.batchesFlushed + 1
    commandsFlushed := m.commandsFlushed + UInt64.ofNat commands }

def flushFailed (m : Metrics) : Metrics := { m with flushFailures := m.flushFailures + 1 }

def purgeCompleted (m : Metrics) : Metrics := { m with purgeCycles := m.purgeCycles + 1 }

def purgeFailed (m : Metrics) : Metrics := { m with purgeFailures := m.purgeFailures + 1 }

end Metrics

end JobResults
