import JobResults.Config.Settings
import JobResults.Disk

/-!
  # The backend that settings choose

  An embedded store is opened at its path and kept there; a store in memory starts empty and is
  gone at the end.  The program has no way to other machines, so that every address of a remote
  server leads nowhere.
-/

namespace JobResults.Config

def openBackend (d : Disk) (s : StoreSettings) : Except StoreError Backend :=
  match s.backend with
  | .remote =>
    if s.addresses.isEmpty then .error (.unavailable "no redis address configured")
    else .error .badAddress
  | .embedded => (d.openStore s.embeddedPath).map .embedded
  | .memory => .ok (.memory .empty)

/-- The disk after a backend of settings was used. -/
def closeBackend (d : Disk) (s : StoreSettings) : Backend → Disk
  | .embedded t => d.keep s.embeddedPath t
  | .memory _ => d

/-- Opens the backend of settings, and a store with their options on it. -/
def connect (d : Disk) (s : Settings) (now : Now) (clock : ManualClock) :
    Except ResultError ResultStore :=
  match openBackend d s.store with
  | .ok b => .ok (.start b s.results now clock)
  | .error e => .error (.store e)

end JobResults.Config
