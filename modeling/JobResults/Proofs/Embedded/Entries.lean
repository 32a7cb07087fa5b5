import JobResults.Embedded.Store
import JobResults.Proofs.Embedded.RowKey
import JobResults.Proofs.Ranking

/-!
  # The entries of a set

  The entries of a set are the rows in `scores` that can be read as rows of this set, whatever else
  is in the tables.  Rows in byte order are in rank order (`entries_ascending`).  Where all rows that
  start like those of the set can be read (`WellFormed`), a search from the top that stops at the
  first score below a range has found all entries in range (`range_by_rank`).
-/

namespace JobResults.Embedded

open Bytes (ofString)
open Memory (Ranked)

namespace Tables

/-- The members of a set in the order of their rows in `scores`. -/
def entries (t : Tables) (set : String) : List Ranked :=
  (t.scores.scan (setStart set)).filterMap fun row =>
    (decodeScoreKey? set row.1).map fun e => ⟨e.1, e.2⟩

theorem mem_scan_iff {t : Table} {start : Bytes} {row : Bytes × Bytes} :
    row ∈ t.scan start ↔ t.get? row.1 = some row.2 ∧ ∃ rest, row.1 = start ++ rest := by
  obtain ⟨b, content⟩ := row
  rw [Table.scan, List.mem_filter, OrderedMap.get?_eq_some_iff, Option.isSome_iff_exists]
  simp only [dropStart?_eq_some_iff]

/-- Every row in `scores` with the place of an entry is one. -/
theorem mem_entries_iff {t : Tables} {key : String} {r : Ranked} :
    r ∈ t.entries key ↔ ∃ row, t.scores.get? (scoreKey key r.score r.member) = some row := by
  rw [entries, List.mem_filterMap]
  constructor
  · rintro ⟨⟨b, row⟩, hrow, hr⟩
    obtain ⟨⟨score, member⟩, hdecoded, rfl⟩ := Option.map_eq_some_iff.1 hr
    obtain ⟨hget, -⟩ := mem_scan_iff.1 hrow
    refine ⟨row, ?_⟩
    rwa [← decodeScoreKey?_eq_some_iff.1 hdecoded]
  · rintro ⟨row, hrow⟩
    refine ⟨(scoreKey key r.score r.member, row), ?_, by simp⟩
    exact mem_scan_iff.2 ⟨hrow, _, scoreKey_eq key r.score r.member⟩

/-- Rows in byte order are in rank order, whatever else is in the table. -/
theorem entries_ascending (t : Tables) (key : String) : (t.entries key).Pairwise (· < ·) := by
  have hrows : (t.scores.scan (setStart key)).Pairwise fun a b => a.1 < b.1 :=
    t.scores.ascending.filter _
  rw [entries, List.pairwise_filterMap]
  refine hrows.imp ?_
  intro a b hlt r hr r' hr'
  obtain ⟨⟨score, member⟩, hdecoded, rfl⟩ := Option.map_eq_some_iff.1 hr
  obtain ⟨⟨score', member'⟩, hdecoded', rfl⟩ := Option.map_eq_some_iff.1 hr'
  rw [decodeScoreKey?_eq_some_iff.1 hdecoded, decodeScoreKey?_eq_some_iff.1 hdecoded'] at hlt
  exact (scoreKey_lt_iff _ _ _ _ _).1 hlt

/-! ### Sets that can be read -/

/-- Every row in `scores` that starts like a row of the set is one. -/
def WellFormed (t : Tables) (set : String) : Prop :=
  ∀ b row, t.scores.get? b = some row → setStart set <+: b → ∃ s m, b = scoreKey set s m

variable {t : Tables} {set : String}

theorem wellFormed_iff :
    t.WellFormed set ↔
      ∀ row ∈ t.scores.scan (setStart set), (decodeScoreKey? set row.1).isSome = true := by
  simp only [WellFormed, Prod.forall, mem_scan_iff, Option.isSome_iff_exists, Prod.exists,
    decodeScoreKey?_eq_some_iff]
  constructor
  · rintro h b row ⟨hrow, rest, rfl⟩
    exact h _ row hrow (List.prefix_append _ _)
  · rintro h b row hrow ⟨rest, rfl⟩
    exact h _ row ⟨hrow, rest, rfl⟩

/-- The rows of a set that can be read are those of its entries, in order. -/
theorem WellFormed.keys_eq (h : t.WellFormed set) :
    (t.scores.scan (setStart set)).map (·.1)
      = (t.entries set).map fun r => scoreKey set r.score r.member := by
  rw [entries, List.map_filterMap, ← List.filterMap_eq_map]
  refine List.filterMap_congr fun row hrow => ?_
  obtain ⟨⟨s, m⟩, hdecoded⟩ := Option.isSome_iff_exists.1 (wellFormed_iff.1 h row hrow)
  simp [decodeScoreKey?_eq_some_iff.1 hdecoded]

/-! ### Searching a set from the top -/

/-- Among rows of descending rank the search loses nothing by stopping early. -/
theorem collectRange_eq_ok {rows : List (Bytes × Bytes)} {l : List Ranked}
    (hrows : rows.map (·.1) = l.map fun r => scoreKey set r.score r.member)
    (hdesc : l.Pairwise fun a b => b < a) (min max : Score) :
    collectRange set min max rows
      = .ok ((l.filter (Ranked.inRange min max)).map (·.member)) := by
  induction l generalizing rows with
  | nil =>
    obtain rfl := List.map_eq_nil_iff.1 hrows
    rfl
  | cons r l ih =>
    obtain ⟨row, rest, rfl, hrow, hrest⟩ := List.map_eq_cons_iff.1 hrows
    obtain ⟨hr, hl⟩ := List.pairwise_cons.1 hdesc
    simp only [collectRange, hrow, decodeScoreKey?_scoreKey]
    split
    · next habove =>
      have hout : ¬ Ranked.inRange min max r = true := fun hin =>
        Int64.lt_irrefl (Int64.lt_of_lt_of_le habove (Ranked.inRange_iff.1 hin).2)
      rw [List.filter_cons_of_neg hout]
      exact ih hrest hl
    · next hbelow =>
      split
      · next hstop =>
        -- all that follows has a score below the range as well
        have hnone : (r :: l).filter (Ranked.inRange min max) = [] := by
          rw [List.filter_eq_nil_iff]
          intro b hb hin
          have hle : b.score ≤ r.score := by
            rcases List.mem_cons.1 hb with rfl | hb
            · exact Int64.le_refl _
            · exact Ranked.score_le_of_lt (hr b hb)
          exact Int64.lt_irrefl
            (Int64.lt_of_le_of_lt (Int64.le_trans (Ranked.inRange_iff.1 hin).1 hle) hstop)
        rw [hnone]
        rfl
      · next hin =>
        have hin' : Ranked.inRange min max r = true :=
          Ranked.inRange_iff.2 ⟨Int64.not_lt.1 hin, Int64.not_lt.1 hbelow⟩
        rw [List.filter_cons_of_pos hin', ih hrest hl]
        rfl

/-- The search finds the entries in range, from the highest rank down. -/
theorem WellFormed.range_eq_ok (h : t.WellFormed set) (min max : Score) :
    t.range set min max
      = .ok (((t.entries set).filter (Ranked.inRange min max)).reverse.map (·.member)) := by
  have hrows : (t.scores.scan (setStart set)).reverse.map (·.1)
      = (t.entries set).reverse.map fun r => scoreKey set r.score r.member := by
    rw [List.map_reverse, h.keys_eq, List.map_reverse]
  rw [Tables.range, ← List.filter_reverse]
  exact collectRange_eq_ok hrows (List.pairwise_reverse.2 (t.entries_ascending set)) min max

/-- The rows of a set are ordered by score, and those of one score by the bytes of the member.  So
    if all rows of the set can be read, the search answers with the members that have a score in
    the range, all of them and no others, from the highest rank down. -/
theorem range_by_rank (set : String) :
    (∀ s s' m m',
      scoreKey set s m < scoreKey set s' m' ↔ s < s' ∨ s = s' ∧ ofString m < ofString m') ∧
    ∀ t : Tables, t.WellFormed set → ∀ min max, ∃ found : List Ranked,
      t.range set min max = .ok (found.map (·.member)) ∧
      found.Pairwise (fun r r' => r' < r) ∧
      ∀ r, r ∈ found ↔
        (∃ row, t.scores.get? (scoreKey set r.score r.member) = some row) ∧
          min ≤ r.score ∧ r.score ≤ max := by
  refine ⟨scoreKey_lt_iff set, fun t h min max => ?_⟩
  refine ⟨((t.entries set).filter (Ranked.inRange min max)).reverse, h.range_eq_ok min max, ?_, ?_⟩
  · exact List.pairwise_reverse.2 ((t.entries_ascending set).filter _)
  · intro r
    rw [List.mem_reverse, List.mem_filter, mem_entries_iff, Ranked.inRange_iff]

/-- Scores on both sides of zero and at the end of the range, and members of which one starts with
    the other. -/
theorem range_by_rank_ends :
    let t := (Tables.empty.answer 7 (.execute [.rank "index" "ab" (-1), .rank "index" "a" (-1),
      .rank "index" "b" Int64.minValue, .rank "index" "c" 1])).1
    t.WellFormed "index" ∧
      ∃ found : List Ranked, t.range "index" Int64.minValue 0 = .ok (found.map (·.member)) ∧
        ⟨-1, "a"⟩ ∈ found ∧ ⟨Int64.minValue, "b"⟩ ∈ found ∧ ⟨1, "c"⟩ ∉ found := by
  intro t
  have hformed : t.WellFormed "index" := wellFormed_iff.2 (by decide)
  obtain ⟨found, hrange, -, hfound⟩ := (range_by_rank "index").2 t hformed Int64.minValue 0
  refine ⟨hformed, found, hrange, ?_⟩
  simp only [hfound]
  refine ⟨⟨⟨[], by decide⟩, by decide⟩, ⟨⟨[], by decide⟩, by decide⟩, fun h => ?_⟩
  exact absurd h.2 (by decide)

end Tables

end JobResults.Embedded
