import JobResults.Bytes
import JobResults.StoreCall
import JobResults.Text.Integer

/-!
  # Requests to a remote store

  A request is a list of arguments, the first of which names the command.  A batch goes out as a
  transaction: `MULTI`, one request per command in order, and `EXEC`.  An empty batch, an eviction
  and a close need no request at all, because the server expires values by itself.

  A time to live goes out in whole milliseconds.  The server refuses zero, so that anything below
  one millisecond counts as one, and it refuses what its own clock cannot count, so that a time to
  live above `maxMillis` is left out: such a value never expires.
-/

namespace JobResults.Wire

abbrev Request := List Bytes

def word (s : String) : Bytes := Bytes.ofString s

/-- An argument that is an integer, in decimal. -/
def number (n : Int) : Bytes := word (Text.decimal n)

def maxMillis : Nat := (2 ^ 63 - 1) / 2

/-- The milliseconds in which a time to live is sent, unless it is too long. -/
def millis? (ttl : Duration) : Option Nat :=
  if ttl.millis ≤ maxMillis then some (max 1 ttl.millis) else none

/-- The arguments that limit the life of a value. -/
def lifetime (ttl : Option Duration) : Request :=
  match ttl.bind millis? with
  | some n => [word "PX", number n]
  | none => []

def ofCommand : Command → Request
  | .set key payload ttl => [word "SET", word key, payload] ++ lifetime ttl
  | .delete key => [word "DEL", word key]
  | .rank key member score => [word "ZADD", word key, number score.toInt, word member]
  | .unrank key member => [word "ZREM", word key, word member]
  | .unrankRange key min max =>
    [word "ZREMRANGEBYSCORE", word key, number min.toInt, number max.toInt]

def ofBatch (commands : List Command) : List Request :=
  if commands.isEmpty then []
  else [[word "MULTI"]] ++ commands.map ofCommand ++ [[word "EXEC"]]

def ofCall : StoreCall → List Request
  | .get key => [[word "GET", word key]]
  | .range key min max =>
    [[word "ZREVRANGEBYSCORE", word key, number max.toInt, number min.toInt]]
  | .execute commands => ofBatch commands
  | .ping => [[word "PING"]]
  | .evict => []
  | .close => []

/-- The requests that open a connection: the password, even an empty one, and the database unless
    it is the first. -/
def handshake (password : Option String) (database : Int) : List Request :=
  (password.map fun p => [word "AUTH", word p]).toList ++
    if database = 0 then [] else [[word "SELECT", number database]]

end JobResults.Wire
