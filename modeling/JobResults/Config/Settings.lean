import JobResults.ResultStore

/-!
  # Settings

  What can be configured, with the defaults: a remote server on this machine, no expiry, no
  purging in the background and no queue.
-/

namespace JobResults.Config

/-- The kinds of backends. -/
inductive BackendKind where
  | remote
  | embedded
  | memory
  deriving DecidableEq, Repr

namespace BackendKind

def word : BackendKind → String
  | remote => "redis"
  | embedded => "fjall"
  | memory => "memory"

def all : List BackendKind := [remote, embedded, memory]

def ofWord? (word : String) : Option BackendKind := all.find? fun k => k.word == word

end BackendKind

def seconds (n : UInt64) : Duration := Duration.ofSeconds n

/-- The settings of the backend. -/
structure StoreSettings where
  backend : BackendKind := .remote
  addresses : List String := ["127.0.0.1:6379"]
  password : Option String := none
  database : Int64 := 0
  dialTimeout : Duration := seconds 5
  readTimeout : Duration := seconds 3
  writeTimeout : Duration := seconds 3
  idleTimeout : Duration := seconds 300
  minIdleConnections : UInt64 := 0
  embeddedPath : String := "data/results"
  deriving DecidableEq, Repr

/-- All settings. -/
structure Settings where
  store : StoreSettings := {}
  results : Options := {}
  deriving DecidableEq, Repr

end JobResults.Config
