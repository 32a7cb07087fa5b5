import JobResults.Backend
import JobResults.Files

/-!
  # The disk

  The disk holds files and, at places of their own, embedded stores.  A store that is opened where
  nothing is yet is empty, and the directories on the way to it are made.
-/

namespace JobResults

/-- Files and embedded stores. -/
structure Disk where
  files : Files
  stores : List (Place × Embedded.Tables)
  deriving DecidableEq

namespace Disk

def ofFiles (files : Files) : Disk := ⟨files, []⟩

def hasFile (d : Disk) (place : Place) : Bool :=
  match d.files.at? place with
  | some (.file _) => true
  | _ => false

def obstacle? (d : Disk) (place : Place) : Option Obstacle :=
  if d.hasFile place then some .file
  else if (List.range place.length).any (fun n => d.hasFile (place.take n)) then
    some .fileOnTheWay
  else none

def tables (d : Disk) (path : String) : Option Embedded.Tables := d.stores.lookup (placeOf path)

def openStore (d : Disk) (path : String) : Except StoreError Embedded.Tables :=
  let place := placeOf path
  match d.obstacle? place.dropLast, d.obstacle? place with
  | some obstacle, _ => .error (.inputOutput obstacle)
  | none, some _ => .error .engine
  | none, none => .ok ((d.tables path).getD .empty)

def keep (d : Disk) (path : String) (t : Embedded.Tables) : Disk where
  files := ⟨(placeOf path, .directory) :: d.files.entries⟩
  stores := (placeOf path, t) :: d.stores.filter fun s => s.1 != placeOf path

end Disk

end JobResults
