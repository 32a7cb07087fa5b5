import JobResults.Backend
import JobResults.Outcome

/-!
  # Backends that may refuse

  A gate stands in front of a backend.  It keeps the record of all batches that were passed to
  `execute` and counts the evictions and closings, and it may refuse calls: a refused call does not
  reach the backend and fails as unavailable, but it is on record or counted all the same.
-/

namespace JobResults

/-- A kind of call that can be refused. -/
inductive Refusal where
  | execute
  /-- Batches with a command on the set of failed jobs. -/
  | executeFailedIndex
  /-- Batches with a command on the set of successful jobs. -/
  | executeSuccessIndex
  | get
  | range
  | ping
  | evict
  | close
  deriving DecidableEq, Repr

namespace Refusal

def name : Refusal → String
  | execute => "execute"
  | executeFailedIndex => "execute_failed_index"
  | executeSuccessIndex => "execute_success_index"
  | get => "get"
  | range => "range"
  | ping => "ping"
  | evict => "evict"
  | close => "close"

/-- All refusals, in the order in which they are tried. -/
def all : List Refusal :=
  [execute, executeFailedIndex, executeSuccessIndex, get, range, ping, evict, close]

def ofName? (name : String) : Option Refusal := all.find? fun r => r.name == name

def touches (key : String) (commands : List Command) : Bool := commands.any fun c => c.key == key

def applies : Refusal → StoreCall → Bool
  | execute, .execute _ => true
  | executeFailedIndex, .execute commands => touches Outcome.failed.indexKey commands
  | executeSuccessIndex, .execute commands => touches Outcome.success.indexKey commands
  | get, .get _ => true
  | range, .range .. => true
  | ping, .ping => true
  | evict, .evict => true
  | close, .close => true
  | _, _ => false

def error (r : Refusal) : StoreError := .unavailable (r.name ++ " refused")

end Refusal

/-- A backend with the refusals in force, the record of batches passed to `execute`, and the number
    of calls to evict and to close. -/
structure Gate where
  backend : Backend
  refusals : List Refusal
  record : List (List Command)
  evictions : Nat
  closings : Nat
  deriving DecidableEq

namespace Gate

/-- A gate that refuses nothing, with nothing on record. -/
def ofBackend (b : Backend) : Gate := ⟨b, [], [], 0, 0⟩

/-- The error with which a call is refused, if it is. -/
def refused? (g : Gate) (call : StoreCall) : Option StoreError :=
  (Refusal.all.find? fun r => g.refusals.contains r && r.applies call).map Refusal.error

def note (g : Gate) : StoreCall → Gate
  | .execute commands => { g with record := g.record ++ [commands] }
  | .evict => { g with evictions := g.evictions + 1 }
  | .close => { g with closings := g.closings + 1 }
  | _ => g

/-- Passes a call to the backend, unless it is refused. -/
def answer (g : Gate) (now : Now) (call : StoreCall) : Gate × Except StoreError StoreAnswer :=
  let g := g.note call
  match g.refused? call with
  | some e => (g, .error e)
  | none =>
    let (b, reply) := g.backend.answer now call
    ({ g with backend := b }, reply)

end Gate

end JobResults
