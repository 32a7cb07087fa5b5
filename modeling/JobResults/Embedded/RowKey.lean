import JobResults.Bytes
import JobResults.Score

/-!
  # Rows of the embedded store

  Three tables of rows hold the store:

    * `values`: key ↦ expiry (8 bytes) and payload, where expiry 0 means never;
    * `scores`: set, NUL, score (8 bytes), member ↦ nothing;
    * `members`: set, NUL, member ↦ score (8 bytes).

  The 8 bytes of a score are those of the score plus `2 ^ 63`, most significant first, so rows in
  byte order are in score order, and among equal scores in the byte order of the members.
-/

namespace JobResults.Embedded

open Bytes (bigEndian ofBigEndian ofString toString?)

/-- The width of an encoded score and of an encoded expiry. -/
def wordWidth : Nat := 8

/-- The bytes of a score, in the order of scores. -/
def encodeScore (s : Score) : Bytes := bigEndian wordWidth (s.toInt + 2 ^ 63).toNat

def decodeScore? (b : Bytes) : Option Score :=
  if b.length = wordWidth then some (Int64.ofInt (Int.ofNat (ofBigEndian b) - 2 ^ 63)) else none

def setStart (set : String) : Bytes := ofString set ++ [0]

/-- The key of a member's row in `scores`. -/
def scoreKey (set : String) (score : Score) (member : String) : Bytes :=
  setStart set ++ encodeScore score ++ ofString member

/-- What follows `start` in `b`, if `b` starts with it. -/
def dropStart? : (start b : Bytes) → Option Bytes
  | [], b => some b
  | x :: start, y :: b => if x = y then dropStart? start b else none
  | _ :: _, [] => none

/-- The score and the member of a row in `scores`, if it is one of the given set. -/
def decodeScoreKey? (set : String) (key : Bytes) : Option (Score × String) := do
  let rest ← dropStart? (setStart set) key
  let score ← decodeScore? (rest.take wordWidth)
  let member ← toString? (rest.drop wordWidth)
  return (score, member)

/-- The key of a member's row in `members`. -/
def memberKey (set member : String) : Bytes := setStart set ++ ofString member

def encodeValue (expires : UInt64) (payload : Bytes) : Bytes :=
  bigEndian wordWidth expires.toNat ++ payload

/-- The expiry and the payload of a row, if it is long enough. -/
def decodeValue? (row : Bytes) : Option (UInt64 × Bytes) :=
  if row.length < wordWidth then none
  else some (UInt64.ofNat (ofBigEndian (row.take wordWidth)), row.drop wordWidth)

end JobResults.Embedded
