import JobResults.Config.Conversion
import JobResults.Config.Settings

/-!
  # Settings out of values

  A section is a table of settings by name, or a list of them in order.  A setting that is not
  there has its default; names that mean nothing are passed over.
-/

namespace JobResults.Config

/-- The backend, as a word or as a table whose only name is that word. -/
def backendKind (v : Value) : Except Fault BackendKind :=
  let named (name : String) : Except Fault BackendKind :=
    match BackendKind.ofWord? name with
    | some kind => .ok kind
    | none => .error (.plain (.unknownBackend name))
  match v with
  | .scalar _ (.text name) => named name
  | .table _ [(name, _)] => named name
  | _ => .error (.plain .backendShape)

/-- The value of a setting in a section, with the step to it. -/
def settingAt (v : Value) (index : Nat) (name : String) : Option (Step × Value) :=
  match v with
  | .table _ fields => (fields.lookup name).map fun v => (.field name, v)
  | .list _ items => items[index]?.map fun v => (.position index, v)
  | .scalar .. => none

def setting (v : Value) (index : Nat) (name : String) (decode : Decoder α) (default : α) :
    Except Fault α :=
  match settingAt v index name with
  | none => .ok default
  | some (step, v) => (decode v).mapError (Fault.under step)

/-- The settings of the backend in a section.  The password is not among them. -/
def storeSettings (v : Value) : Except Fault StoreSettings := do
  let d : StoreSettings := {}
  return {
    backend := ← setting v 0 "backend" backendKind d.backend
    addresses := ← setting v 1 "addrs" texts d.addresses
    password := none
    database := ← setting v 2 "db" signed d.database
    dialTimeout := ← setting v 3 "dial_timeout" duration d.dialTimeout
    readTimeout := ← setting v 4 "read_timeout" duration d.readTimeout
    writeTimeout := ← setting v 5 "write_timeout" duration d.writeTimeout
    idleTimeout := ← setting v 6 "idle_timeout" duration d.idleTimeout
    minIdleConnections := ← setting v 7 "min_idle_conns" unsigned d.minIdleConnections
    embeddedPath := ← setting v 8 "fjall_path" text d.embeddedPath }

def options (v : Value) : Except Fault Options := do
  return {
    expiry := ← setting v 0 "expiry" duration .zero
    metaExpiry := ← setting v 1 "meta_expiry" duration .zero
    pipePeriod := ← setting v 2 "pipe_period" duration .zero }

def inSection (need : Need) (decode : Decoder α) : Decoder α
  | v@(.scalar ..) => .error (.plain (.mismatch v.finding need))
  | v => decode v

/-- All settings in the table into which the layers were merged. -/
def settings (root : Value) : Except Fault Settings := do
  let d : Settings := {}
  return {
    store := ← setting root 0 "store" (inSection .storeSection storeSettings) d.store
    results := ← setting root 1 "results" (inSection .resultsSection options) d.results }

end JobResults.Config
