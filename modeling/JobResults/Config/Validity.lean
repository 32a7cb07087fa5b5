import JobResults.Config.Settings
import JobResults.Duration.Text
import JobResults.Text.Blank

/-!
  # Valid settings

  Settings that can be read may still make no sense.  Only what the chosen backend uses is looked
  at, and the first complaint in the order below is the one that is made.
-/

namespace JobResults.Config

/-- The timeouts that must be positive. -/
inductive Timeout where
  | dial
  | read
  | write
  deriving DecidableEq, Repr

def Timeout.name : Timeout → String
  | dial => "dial_timeout"
  | read => "read_timeout"
  | write => "write_timeout"

/-- Why settings make no sense. -/
inductive Invalid where
  | noAddress
  | manyAddresses (count : Nat)
  | negativeDatabase (index : Int64)
  | noPath
  | zeroTimeout (timeout : Timeout)
  | shortPeriod (actual : Duration)
  deriving DecidableEq, Repr

def Invalid.message : Invalid → String
  | noAddress => "Redis backend requires at least one address in store.addrs"
  | manyAddresses count =>
    "Redis cluster mode is not supported (" ++ toString count ++ " addresses configured)"
  | negativeDatabase index =>
    "Redis database index must not be negative: " ++ Text.decimal index.toInt
  | noPath => "Fjall backend requires a non-empty store.fjall_path"
  | zeroTimeout timeout => "Timeout must be positive: " ++ timeout.name
  | shortPeriod actual => "pipe_period (" ++ actual.text ++ ") is below the 1ms minimum"

def minPeriod : Duration := Duration.ofMillis 1

def StoreSettings.timeout (s : StoreSettings) : Timeout → Duration
  | .dial => s.dialTimeout
  | .read => s.readTimeout
  | .write => s.writeTimeout

/-- The complaint about the settings of a remote server. -/
def remoteComplaint (s : StoreSettings) : Option Invalid :=
  match s.addresses with
  | [] => some .noAddress
  | [address] =>
    if (Text.trim address.toList).isEmpty then some .noAddress
    else if s.database < 0 then some (.negativeDatabase s.database)
    else ([Timeout.dial, .read, .write].find? fun t => (s.timeout t).isZero).map .zeroTimeout
  | addresses => some (.manyAddresses addresses.length)

/-- The complaint about the settings of the backend. -/
def storeComplaint (s : StoreSettings) : Option Invalid :=
  match s.backend with
  | .remote => remoteComplaint s
  | .embedded => if s.embeddedPath.isEmpty then some .noPath else none
  | .memory => none

/-- The complaint about the options of the store. -/
def optionsComplaint (o : Options) : Option Invalid :=
  if o.pipePeriod.isZero ∨ minPeriod.nanos ≤ o.pipePeriod.nanos then none
  else some (.shortPeriod o.pipePeriod)

def complaint (s : Settings) : Option Invalid :=
  (storeComplaint s.store).or (optionsComplaint s.results)

end JobResults.Config
