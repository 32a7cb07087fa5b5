import JobResults.Command
import JobResults.Embedded.Tables
import JobResults.StoreError

/-!
  # Staged batches

  A batch is first applied to a view of the keys that it touches.  The view knows of every member
  the score that is stored and the score that is to be stored, so that only the net change of each
  row is written, whatever the order of the commands.  Nothing is written when a row that the
  batch needs cannot be decoded.
-/

namespace JobResults.Embedded

/-- The stored score of a member and the one that it is to have. -/
structure MemberState where
  stored : Option Score
  pending : Option Score
  deriving DecidableEq, Repr

/-- The members of a set that a batch has touched. -/
abbrev StagedSet := OrderedMap String MemberState

/-- The view of a batch on the keys that it touches. -/
structure Staged where
  values : OrderedMap String (Option Bytes)
  sets : OrderedMap String StagedSet
  /-- The sets of which all stored members are in view. -/
  loaded : List String

/-- The expiry of a value that is written with a time to live: never is 0, so the earliest expiry
    is 1; sums beyond a 64-bit word stop at its end. -/
def expiry (now : UInt64) : Option Duration → UInt64
  | none => 0
  | some ttl => UInt64.ofNat (max 1 (min (2 ^ 64 - 1) (now.toNat + ttl.nanos)))

/-- The stored members of a set with their scores, in rank order. -/
def Tables.scanSet (t : Tables) (set : String) : Except StoreError (List (Score × String)) :=
  (t.scores.scan (setStart set)).mapM fun row =>
    match decodeScoreKey? set row.1 with
    | some entry => .ok entry
    | none => .error (.corrupt set .malformedScoreEntry)

def Tables.memberScore (t : Tables) (set member : String) : Except StoreError (Option Score) :=
  match t.members.get? (memberKey set member) with
  | none => .ok none
  | some row =>
    match decodeScore? row with
    | some score => .ok (some score)
    | none => .error (.corrupt set .malformedMemberScore)

namespace Staged

def empty : Staged := ⟨.empty, .empty, []⟩

/-- The part of the view that belongs to a set. -/
def set (s : Staged) (key : String) : StagedSet := (s.sets.get? key).getD .empty

/-- The state of a member, read from the tables when it is touched first. -/
def member (t : Tables) (s : Staged) (key member : String) : Except StoreError MemberState :=
  match (s.set key).get? member with
  | some state => .ok state
  | none => (t.memberScore key member).map fun stored => ⟨stored, stored⟩

def setPending (t : Tables) (s : Staged) (key member : String) (score : Option Score) :
    Except StoreError Staged :=
  (s.member t key member).map fun state =>
    { s with sets := s.sets.insert key ((s.set key).insert member { state with pending := score }) }

/-- Brings all stored members of a set into view.  Those already in view stay as they are. -/
def load (t : Tables) (s : Staged) (key : String) : Except StoreError Staged :=
  if s.loaded.contains key then .ok s
  else
    (t.scanSet key).map fun entries =>
      let set := entries.foldl
        (fun (set : StagedSet) e =>
          if set.contains e.2 then set else set.insert e.2 ⟨some e.1, some e.1⟩)
        (s.set key)
      { s with sets := s.sets.insert key set, loaded := key :: s.loaded }

/-- Removes the members of a set whose score to be satisfies a test. -/
def dropPending (t : Tables) (s : Staged) (key : String) (doomed : Score → Bool) :
    Except StoreError Staged :=
  (s.load t key).map fun s =>
    let set := (s.set key).mapValues fun _ state =>
      { state with pending := state.pending.filter fun score => !doomed score }
    { s with sets := s.sets.insert key set }

def clear (t : Tables) (s : Staged) (key : String) : Except StoreError Staged :=
  s.dropPending t key fun _ => true

def putValue (s : Staged) (key : String) (row : Option Bytes) : Staged :=
  { s with values := s.values.insert key row }

def apply (t : Tables) (now : UInt64) (s : Staged) : Command → Except StoreError Staged
  | .set key payload ttl =>
    (s.clear t key).map (·.putValue key (some (encodeValue (expiry now ttl) payload)))
  | .delete key => (s.clear t key).map (·.putValue key none)
  | .rank key member score => (s.putValue key none).setPending t key member (some score)
  | .unrank key member => s.setPending t key member none
  | .unrankRange key min max => s.dropPending t key (Score.within min max)

def applyAll (t : Tables) (now : UInt64) (s : Staged) (commands : List Command) :
    Except StoreError Staged :=
  commands.foldlM (apply t now) s

/-- The row writes for one member: the old score's row goes unless the score stays, and the rows of
    the score to be are written. -/
def memberWrites (key member : String) (state : MemberState) : List RowWrite :=
  let outdated : List RowWrite := match state.stored with
    | some old =>
      if state.pending = some old then [] else [⟨.scores, scoreKey key old member, none⟩]
    | none => []
  let current : List RowWrite := match state.pending with
    | some score =>
      [⟨.scores, scoreKey key score member, some []⟩,
        ⟨.members, memberKey key member, some (encodeScore score)⟩]
    | none =>
      if state.stored.isSome then [⟨.members, memberKey key member, none⟩] else []
  outdated ++ current

/-- The row writes that bring the tables to the view. -/
def writes (s : Staged) : List RowWrite :=
  s.values.toList.map (fun v => ⟨.values, Bytes.ofString v.1, v.2⟩)
    ++ s.sets.toList.flatMap fun set =>
      set.2.toList.flatMap fun m => memberWrites set.1 m.1 m.2

end Staged

end JobResults.Embedded
