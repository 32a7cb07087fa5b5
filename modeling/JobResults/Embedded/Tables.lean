import JobResults.Embedded.RowKey
import JobResults.OrderedMap

/-!
  # The tables of the embedded store

  A table is a map from byte strings to byte strings in byte order.  A store is three of them, and
  changes by row writes.
-/

namespace JobResults.Embedded

abbrev Table := OrderedMap Bytes Bytes

/-- The name of a table. -/
inductive TableName where
  | values
  | scores
  | members
  deriving DecidableEq, Repr

/-- The three tables of a store. -/
structure Tables where
  values : Table
  scores : Table
  members : Table
  deriving DecidableEq

/-- A write to one row: a new content, or its removal. -/
structure RowWrite where
  table : TableName
  key : Bytes
  content : Option Bytes
  deriving DecidableEq, Repr

/-- The rows with keys that start with a byte string, in byte order. -/
def Table.scan (t : Table) (start : Bytes) : List (Bytes × Bytes) :=
  t.toList.filter fun row => (dropStart? start row.1).isSome

def Table.write (t : Table) (key : Bytes) : Option Bytes → Table
  | some content => t.insert key content
  | none => t.erase key

namespace Tables

def empty : Tables := ⟨.empty, .empty, .empty⟩

instance : Inhabited Tables := ⟨empty⟩

def table (t : Tables) : TableName → Table
  | .values => t.values
  | .scores => t.scores
  | .members => t.members

def write (t : Tables) (w : RowWrite) : Tables :=
  match w.table with
  | .values => { t with values := t.values.write w.key w.content }
  | .scores => { t with scores := t.scores.write w.key w.content }
  | .members => { t with members := t.members.write w.key w.content }

def writeAll (t : Tables) (writes : List RowWrite) : Tables := writes.foldl write t

end Tables

end JobResults.Embedded
