import JobResults.Command
import JobResults.StoreError

/-!
  # The queue of commands

  Commands are queued in the order in which they are accepted and taken as one batch.  Taking
  empties the queue before the batch is sent, so a command that is queued while a batch is on its
  way belongs to the next batch.  A closed queue accepts nothing and can still be taken.
-/

namespace JobResults

/-- Commands that wait for the next batch. -/
structure Pipeline where
  queue : List Command
  closed : Bool
  deriving DecidableEq, Repr

namespace Pipeline

def empty : Pipeline := ⟨[], false⟩

/-- Accepts a command, unless the queue is closed. -/
def enqueue (p : Pipeline) (c : Command) : Except StoreError Pipeline :=
  if p.closed then .error .closed else .ok { p with queue := p.queue ++ [c] }

/-- Accepts no more commands.  Those in the queue stay. -/
def close (p : Pipeline) : Pipeline := { p with closed := true }

def length (p : Pipeline) : Nat := p.queue.length

/-- The queue as a batch, and the queue without it. -/
def take (p : Pipeline) : List Command × Pipeline := (p.queue, { p with queue := [] })

def describe (p : Pipeline) : String :=
  "Pipeline \x7b queued: " ++ toString p.length ++ ", closed: " ++ toString p.closed ++ " \x7d"

end Pipeline

end JobResults
