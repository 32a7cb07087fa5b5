import JobResults.Data.Fields
import JobResults.Toml.Moment
import JobResults.Toml.Number

/-!
  # Tables

  Headers and dotted keys both make tables.  A table keeps how it came up, because that decides
  what may still be added: a header opens a table once, and a dotted key adds only to tables that
  dotted keys made.
-/

namespace JobResults.Toml

/-- How a table came up. -/
inductive Standing where
  | inline
  | implied
  | dotted
  | opened
  deriving DecidableEq, Repr

/-- A value of a document. -/
inductive Value where
  | boolean (value : Bool)
  | number (value : Number)
  | text (value : String)
  | moment (value : Moment)
  | array (items : List Value)
  | tables (items : List Value)
  | table (standing : Standing) (fields : List (String × Value))
  deriving Repr

abbrev Fields := List (String × Value)

/-- Changes the table at a path, on which missing tables are made.  In an array of tables the last
    one counts.  A path of dotted keys does not lead into tables that a header opened. -/
def change (dotted : Bool) (f : Standing → Fields → Option Fields) :
    (path : List String) → Standing → Fields → Option Fields
  | [], standing, fields => f standing fields
  | key :: path, _, fields =>
    match fields.lookup key with
    | none => do
      let standing : Standing := if dotted then .dotted else .implied
      let inner ← change dotted f path standing []
      return Data.assign key (.table standing inner) fields
    | some (.table standing inner) =>
      if standing = .inline ∨ (dotted ∧ standing = .opened) then none
      else do
        let inner ← change dotted f path standing inner
        return Data.assign key (.table standing inner) fields
    | some (.tables items) =>
      match dotted, items.getLast? with
      | false, some (.table standing inner) => do
        let inner ← change dotted f path standing inner
        return Data.assign key (.tables (items.dropLast ++ [.table standing inner])) fields
      | _, _ => none
    | some _ => none

/-- Adds a field, which must be new, at a path of dotted keys. -/
def addPair (path : List String) (key : String) (value : Value) (fields : Fields) :
    Option Fields :=
  let add (standing : Standing) (fields : Fields) : Option Fields :=
    if (fields.lookup key).isSome ∨ (path ≠ [] ∧ standing ≠ .dotted) then none
    else some (fields ++ [(key, value)])
  change true add path .opened fields

/-- Adds a field at a path of dotted keys to the table at the path of a header. -/
def addPairIn (header path : List String) (key : String) (value : Value) (root : Fields) :
    Option Fields :=
  change false (fun _ fields => addPair path key value fields) header .opened root

/-- Opens the table of a header, which must not have been opened. -/
def openTable (path : List String) (key : String) (root : Fields) : Option Fields :=
  let opening (_ : Standing) (fields : Fields) : Option Fields :=
    match fields.lookup key with
    | none => some (fields ++ [(key, .table .opened [])])
    | some (.table .implied inner) => some (Data.assign key (.table .opened inner) fields)
    | some _ => none
  change false opening path .opened root

/-- Opens one more table in an array of tables. -/
def openItem (path : List String) (key : String) (root : Fields) : Option Fields :=
  let opening (_ : Standing) (fields : Fields) : Option Fields :=
    match fields.lookup key with
    | none => some (fields ++ [(key, .tables [.table .opened []])])
    | some (.tables items) =>
      some (Data.assign key (.tables (items ++ [.table .opened []])) fields)
    | some _ => none
  change false opening path .opened root

end JobResults.Toml
