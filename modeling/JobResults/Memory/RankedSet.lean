import JobResults.Bytes
import JobResults.OrderedMap
import JobResults.Score

/-!
  # Ranked sets in memory

  A ranked set gives each of its members a score.  It is kept twice: as the map from members to
  scores, and as the same pairs in the order of score and member, where members compare by their
  UTF-8 bytes.  Ranges are read off the second form without looking at the rest of it.
-/

namespace JobResults.Memory

open Bytes (ofString)

/-- A score and a member, ordered by score and then by the bytes of the member. -/
structure Ranked where
  score : Score
  member : String
  deriving DecidableEq, Repr

namespace Ranked

instance : LT Ranked where
  lt a b := a.score < b.score ∨ a.score = b.score ∧ ofString a.member < ofString b.member

instance : DecidableLT Ranked := fun a b =>
  inferInstanceAs
    (Decidable (a.score < b.score ∨ a.score = b.score ∧ ofString a.member < ofString b.member))

theorem lt_iff {a b : Ranked} :
    a < b ↔ a.score < b.score ∨ a.score = b.score ∧ ofString a.member < ofString b.member :=
  Iff.rfl

instance : KeyOrder Ranked where
  irrefl a h := by
    rcases h with h | ⟨_, h⟩
    · exact Int64.lt_irrefl h
    · exact KeyOrder.irrefl _ h
  trans {a b c} h k := by
    rcases h with h | ⟨h, h'⟩ <;> rcases k with k | ⟨k, k'⟩
    · exact .inl (Int64.lt_trans h k)
    · exact .inl (k ▸ h)
    · exact .inl (h ▸ k)
    · exact .inr ⟨h.trans k, KeyOrder.trans h' k'⟩
  connected {a b} h k := by
    have h1 : ¬ a.score < b.score := fun hlt => h (.inl hlt)
    have h2 : ¬ b.score < a.score := fun hlt => k (.inl hlt)
    have hs : a.score = b.score := Int64.le_antisymm (Int64.not_lt.1 h2) (Int64.not_lt.1 h1)
    have h3 : ¬ ofString a.member < ofString b.member := fun hlt => h (.inr ⟨hs, hlt⟩)
    have h4 : ¬ ofString b.member < ofString a.member := fun hlt => k (.inr ⟨hs.symm, hlt⟩)
    have hm := Bytes.ofString_inj (KeyOrder.connected h3 h4)
    cases a
    cases b
    simp_all

end Ranked

/-- A map from members to scores, beside the same pairs in rank order. -/
structure RankedSet where
  scores : OrderedMap String Score
  ordered : OrderedMap Ranked Unit
  deriving DecidableEq

namespace RankedSet

def empty : RankedSet := ⟨.empty, .empty⟩

def isEmpty (s : RankedSet) : Bool := s.scores.isEmpty

def ranking (s : RankedSet) : List Ranked := s.ordered.toList.map (·.1)

/-- Gives a member a score, over the one it has. -/
def insert (s : RankedSet) (member : String) (score : Score) : RankedSet :=
  let ordered := match s.scores.get? member with
    | some old => s.ordered.erase ⟨old, member⟩
    | none => s.ordered
  ⟨s.scores.insert member score, ordered.insert ⟨score, member⟩ ()⟩

def erase (s : RankedSet) (member : String) : RankedSet :=
  match s.scores.get? member with
  | some score => ⟨s.scores.erase member, s.ordered.erase ⟨score, member⟩⟩
  | none => s

/-- The pairs with a score in a closed range, in rank order. -/
def slice (s : RankedSet) (min max : Score) : List Ranked :=
  (s.ranking.dropWhile (·.score < min)).takeWhile (·.score ≤ max)

/-- Removes the members with a score in a closed range. -/
def eraseRange (s : RankedSet) (min max : Score) : RankedSet :=
  if min > max then s
  else
    (s.slice min max).foldl
      (fun s r => ⟨s.scores.erase r.member, s.ordered.erase r⟩) s

/-- The members with a score in a closed range, the highest rank first. -/
def descending (s : RankedSet) (min max : Score) : List String :=
  ((s.ranking.reverse.dropWhile (max < ·.score)).takeWhile (min ≤ ·.score)).map (·.member)

end RankedSet

end JobResults.Memory
