import JobResults.Embedded.Staging
import JobResults.StoreCall

/-!
  # The embedded store

  Answers calls from the three tables.  Expiry is measured on the wall clock, in nanoseconds as a
  64-bit word.  A batch is staged and then written as a whole, or not at all.
-/

namespace JobResults.Embedded

/-- Whether a value has expired.  Expiry 0 means never. -/
def isExpired (expires now : UInt64) : Bool := expires != 0 && expires ≤ now

namespace Tables

/-- The payload of a value that has not expired. -/
def get (t : Tables) (now : UInt64) (key : String) : Except StoreError (Option Bytes) :=
  match t.values.get? (Bytes.ofString key) with
  | none => .ok none
  | some row =>
    match decodeValue? row with
    | none => .error (.corrupt key .shortValue)
    | some (expires, payload) => .ok (if isExpired expires now then none else some payload)

/-- The members among rows in descending rank order: scores above the range are skipped, and the
    first score below it ends the search. -/
def collectRange (set : String) (min max : Score) :
    List (Bytes × Bytes) → Except StoreError (List String)
  | [] => .ok []
  | row :: rest =>
    match decodeScoreKey? set row.1 with
    | none => .error (.corrupt set .malformedScoreEntry)
    | some (score, member) =>
      if max < score then collectRange set min max rest
      else if score < min then .ok []
      else (collectRange set min max rest).map (member :: ·)

/-- The members with a score in a closed range, the highest rank first. -/
def range (t : Tables) (set : String) (min max : Score) : Except StoreError (List String) :=
  collectRange set min max (t.scores.scan (setStart set)).reverse

def execute (t : Tables) (now : UInt64) (commands : List Command) : Except StoreError Tables :=
  (Staged.empty.applyAll t now commands).map fun staged => t.writeAll staged.writes

/-- Whether a row of `values` can be decoded and has expired. -/
def expiredRow (now : UInt64) (row : Bytes) : Bool :=
  match decodeValue? row with
  | some (expires, _) => isExpired expires now
  | none => false

/-- Removes the values that have expired, and counts them. -/
def evict (t : Tables) (now : UInt64) : Tables × Nat :=
  let kept := t.values.filter fun _ row => !expiredRow now row
  ({ t with values := kept }, t.values.size - kept.size)

/-- Answers a call at a reading of the wall clock. -/
def answer (t : Tables) (now : UInt64) : StoreCall → Tables × Except StoreError StoreAnswer
  | .get key => (t, (t.get now key).map .payload)
  | .range key min max => (t, (t.range key min max).map .members)
  | .execute commands =>
    match t.execute now commands with
    | .ok t' => (t', .ok .done)
    | .error e => (t, .error e)
  | .ping => (t, .ok .done)
  | .evict => let (t, n) := t.evict now; (t, .ok (.evicted n))
  | .close => (t, .ok .done)

end Tables

end JobResults.Embedded
