import Mathlib.Order.Basic
import JobResults.Embedded.RowKey

/-!
  # Row keys as an ordered code

  The row keys of the embedded store are a code for sets, scores and members:

    * every reader accepts exactly what its writer produces (`decodeScore?_eq_some_iff`,
      `decodeScoreKey?_eq_some_iff`, `decodeValue?_eq_some_iff`);
    * rows of one set sort by score and then by the bytes of the member (`scoreKey_lt_iff`);
    * sets whose names hold no NUL do not share rows (`setStart_append_inj`), because the name of
      a set ends at the first NUL of a row key, so the reader of one set refuses the rows of another
      (`row_codecs_exact`).

  A member may hold NUL: what follows the first NUL is never searched for another one.

  A name with NUL may be read out of the rows of a shorter one (`exists_name_of_starts`): the bytes
  of the score and of the member would have to go on with the rest of the name.  For most scores
  they do not, whatever the name, because no text starts with their bytes
  (`not_prefix_encodeScore`).
-/

namespace JobResults.Bytes

/-! ### The order of byte strings -/

theorem append_lt_append_left_iff (front x y : Bytes) : front ++ x < front ++ y ↔ x < y := by
  induction front with
  | nil => exact Iff.rfl
  | cons b front ih =>
    rw [List.cons_append, List.cons_append, List.cons_lt_cons_iff, ih]
    constructor
    · rintro (h | ⟨-, h⟩)
      · exact absurd h (UInt8.lt_irrefl b)
      · exact h
    · intro h
      exact .inr ⟨rfl, h⟩

/-- Byte strings that start with words of one width compare by these words first. -/
theorem append_lt_append_iff {x x' : Bytes} (y y' : Bytes) (h : x.length = x'.length) :
    x ++ y < x' ++ y' ↔ x < x' ∨ x = x' ∧ y < y' := by
  induction x generalizing x' with
  | nil =>
    obtain rfl : x' = [] := List.eq_nil_of_length_eq_zero h.symm
    simp
  | cons b x ih =>
    cases x' with
    | nil => simp at h
    | cons c x' =>
      have hlen : x.length = x'.length := by simpa using h
      simp only [List.cons_append, List.cons_lt_cons_iff, ih hlen, List.cons.injEq]
      constructor
      · rintro (hbc | ⟨rfl, hlt | ⟨rfl, hlt⟩⟩)
        · exact .inl (.inl hbc)
        · exact .inl (.inr ⟨rfl, hlt⟩)
        · exact .inr ⟨⟨rfl, rfl⟩, hlt⟩
      · rintro ((hbc | ⟨rfl, hlt⟩) | ⟨⟨rfl, rfl⟩, hlt⟩)
        · exact .inl hbc
        · exact .inr ⟨rfl, .inl hlt⟩
        · exact .inr ⟨rfl, .inr ⟨rfl, hlt⟩⟩

/-- Words of one width are ordered as the numbers that they spell. -/
theorem ofBigEndian_lt_iff {x y : Bytes} (h : x.length = y.length) :
    ofBigEndian x < ofBigEndian y ↔ x < y := by
  induction x generalizing y with
  | nil =>
    obtain rfl : y = [] := List.eq_nil_of_length_eq_zero h.symm
    simp
  | cons b x ih =>
    cases y with
    | nil => simp at h
    | cons c y =>
      have hlen : x.length = y.length := by simpa using h
      have hx := ofBigEndian_lt x
      have hy := ofBigEndian_lt y
      rw [hlen] at hx
      rw [List.cons_lt_cons_iff, ← ih hlen]
      simp only [ofBigEndian, hlen]
      -- a difference in the leading digit outweighs all digits after it
      rcases Nat.lt_trichotomy b.toNat c.toNat with hbc | hbc | hbc
      · have hstep : (b.toNat + 1) * 256 ^ y.length ≤ c.toNat * 256 ^ y.length :=
          Nat.mul_le_mul_right _ hbc
        have hlt : b < c := UInt8.lt_iff_toNat_lt.2 hbc
        rw [Nat.add_mul] at hstep
        constructor
        · intro _
          exact .inl hlt
        · intro _
          omega
      · have heq : b = c := UInt8.toNat_inj.1 hbc
        subst heq
        constructor
        · intro hlt
          exact .inr ⟨rfl, by omega⟩
        · rintro (hlt | ⟨-, hlt⟩)
          · exact absurd hlt (UInt8.lt_irrefl b)
          · omega
      · have hstep : (c.toNat + 1) * 256 ^ y.length ≤ b.toNat * 256 ^ y.length :=
          Nat.mul_le_mul_right _ hbc
        rw [Nat.add_mul] at hstep
        constructor
        · intro hlt
          omega
        · rintro (hlt | ⟨rfl, -⟩)
          · have := UInt8.lt_iff_toNat_lt.1 hlt
            omega
          · omega

/-- Numbers below the width's bound are ordered as their digits. -/
theorem bigEndian_lt_iff {width m n : Nat} (hm : m < 256 ^ width) (hn : n < 256 ^ width) :
    bigEndian width m < bigEndian width n ↔ m < n := by
  have hlen : (bigEndian width m).length = (bigEndian width n).length := by simp
  rw [← ofBigEndian_lt_iff hlen, ofBigEndian_bigEndian, ofBigEndian_bigEndian,
    Nat.mod_eq_of_lt hm, Nat.mod_eq_of_lt hn]

/-! ### The bytes of texts -/

theorem ofString_eq_flatMap (s : String) :
    ofString s = s.toList.flatMap String.utf8EncodeChar := by
  rw [ofString, ← String.utf8Encode_toList, List.utf8Encode]
  simp

theorem ofString_append (s t : String) : ofString (s ++ t) = ofString s ++ ofString t := by
  simp [ofString_eq_flatMap]

/-- A text that starts with the bytes of another one starts with this text. -/
theorem exists_append_of_starts {s t : String} (h : ofString s <+: ofString t) :
    ∃ rest, t = s ++ rest := by
  obtain ⟨b, hb⟩ := h
  have hbytes : s.toList.utf8Encode ++ ⟨b.toArray⟩ = t.toList.utf8Encode := by
    simp only [String.utf8Encode_toList]
    apply ByteArray.ext
    apply Array.toList_inj.1
    simpa [ofString] using hb
  obtain ⟨rest, hrest⟩ := List.isPrefix_of_utf8Encode_append_eq_utf8Encode _ hbytes
  refine ⟨String.ofList rest, ?_⟩
  apply String.toList_inj.1
  simp [hrest]

/-- A text starts with a byte below 0x80, or with two bytes that are at least those of U+0080. -/
theorem lead_ofString {t : String} (ht : t ≠ "") :
    (∃ b rest, ofString t = b :: rest ∧ b.toNat < 0x80) ∨
      ∃ b b' rest, ofString t = b :: b' :: rest ∧ 0xC280 ≤ b.toNat * 256 + b'.toNat := by
  rw [ofString_eq_flatMap]
  cases hchars : t.toList with
  | nil => exact absurd (String.toList_inj.1 hchars) ht
  | cons c cs =>
    simp only [List.flatMap_cons, String.utf8EncodeChar]
    generalize c.val.toNat = v
    generalize cs.flatMap _ = rest
    -- one case for each width of the first character
    split
    · refine .inl ⟨_, _, rfl, ?_⟩
      rw [UInt8.toNat_ofNat']
      omega
    · right
      split
      · refine ⟨_, _, _, rfl, ?_⟩
        rw [UInt8.toNat_ofNat', UInt8.toNat_ofNat']
        omega
      · split <;> refine ⟨_, _, _, rfl, ?_⟩ <;> rw [UInt8.toNat_ofNat', UInt8.toNat_ofNat'] <;>
          omega

end JobResults.Bytes

namespace JobResults.Embedded

open Bytes (bigEndian ofBigEndian ofString toString?)

/-! ### Scores -/

@[simp] theorem length_encodeScore (s : Score) : (encodeScore s).length = wordWidth := by
  simp [encodeScore]

/-- A score plus `2 ^ 63` is a 64-bit word. -/
theorem shifted_lt (s : Score) : (s.toInt + 2 ^ 63).toNat < 256 ^ wordWidth := by
  have hlow := s.le_toInt
  have hhigh := s.toInt_lt
  simp only [wordWidth]
  omega

theorem ofBigEndian_encodeScore (s : Score) :
    ofBigEndian (encodeScore s) = (s.toInt + 2 ^ 63).toNat := by
  rw [encodeScore, Bytes.ofBigEndian_bigEndian, Nat.mod_eq_of_lt (shifted_lt s)]

@[simp] theorem decodeScore?_encodeScore (s : Score) : decodeScore? (encodeScore s) = some s := by
  have hlow := s.le_toInt
  have hback : Int.ofNat (s.toInt + 2 ^ 63).toNat - 2 ^ 63 = s.toInt := by
    rw [Int.ofNat_eq_natCast, Int.toNat_of_nonneg (by omega)]
    omega
  rw [decodeScore?, if_pos (length_encodeScore s), ofBigEndian_encodeScore, hback,
    Int64.ofInt_toInt]

/-- Reading a score accepts exactly the words that are written for one. -/
theorem decodeScore?_eq_some_iff {b : Bytes} {s : Score} :
    decodeScore? b = some s ↔ b = encodeScore s := by
  constructor
  · intro h
    rw [decodeScore?] at h
    split at h
    · next hlen =>
      have hs : s = Int64.ofInt (Int.ofNat (ofBigEndian b) - 2 ^ 63) := (Option.some.inj h).symm
      have hlt : ofBigEndian b < 256 ^ wordWidth := hlen ▸ Bytes.ofBigEndian_lt b
      have htoInt : s.toInt = Int.ofNat (ofBigEndian b) - 2 ^ 63 := by
        rw [hs]
        refine Int64.toInt_ofInt_of_le ?_ ?_ <;> simp only [wordWidth] at hlt <;>
          simp only [Int.ofNat_eq_natCast] <;> omega
      have hword : (s.toInt + 2 ^ 63).toNat = ofBigEndian b := by
        rw [htoInt]
        simp only [Int.ofNat_eq_natCast]
        omega
      rw [encodeScore, hword, ← hlen, Bytes.bigEndian_ofBigEndian]
    · cases h
  · rintro rfl
    exact decodeScore?_encodeScore s

theorem encodeScore_inj {s s' : Score} (h : encodeScore s = encodeScore s') : s = s' := by
  have hs := decodeScore?_encodeScore s
  rw [h, decodeScore?_encodeScore] at hs
  exact (Option.some.inj hs).symm

/-- Encoded scores are ordered as scores. -/
theorem encodeScore_lt_iff (s s' : Score) : encodeScore s < encodeScore s' ↔ s < s' := by
  have hlow := s.le_toInt
  have hlow' := s'.le_toInt
  rw [encodeScore, encodeScore, Bytes.bigEndian_lt_iff (shifted_lt s) (shifted_lt s'),
    Int64.lt_iff_toInt_lt]
  omega

theorem lead_encodeScore (s : Score) :
    ∃ b b' rest, encodeScore s = b :: b' :: rest ∧
      b.toNat * 256 + b'.toNat = (s.toInt + 2 ^ 63).toNat / 2 ^ 48 := by
  refine ⟨_, _, _, rfl, ?_⟩
  have hlt := shifted_lt s
  simp only [wordWidth] at hlt
  simp only [UInt8.toNat_ofNat']
  omega

/-- The first score from zero on that starts with the bytes of a character, U+0080. -/
def firstTextual : Score := 0x4280000000000000

/-- No text starts with the bytes of a score from zero on and before the first textual one. -/
theorem not_prefix_encodeScore {s : Score} (hlow : 0 ≤ s) (hhigh : s < firstTextual) {t : String}
    (ht : t ≠ "") (x : Bytes) : ¬ ofString t <+: encodeScore s ++ x := by
  obtain ⟨b, b', rest, hscore, hlead⟩ := lead_encodeScore s
  have hlow' : 0 ≤ s.toInt := Int64.le_iff_toInt_le.1 hlow
  have hhigh' : s.toInt < 0x4280000000000000 := Int64.lt_iff_toInt_lt.1 hhigh
  have hbyte := b'.toNat_lt
  rw [hscore]
  rintro ⟨y, hstarts⟩
  rcases Bytes.lead_ofString ht with ⟨c, tail, htext, hsmall⟩ | ⟨c, c', tail, htext, hlarge⟩
  · simp only [htext, List.cons_append, List.cons.injEq] at hstarts
    rw [hstarts.1] at hsmall
    omega
  · simp only [htext, List.cons_append, List.cons.injEq] at hstarts
    rw [hstarts.1, hstarts.2.1] at hlarge
    omega

/-! ### What rows start with -/

theorem dropStart?_eq_some_iff {start b rest : Bytes} :
    dropStart? start b = some rest ↔ b = start ++ rest := by
  induction start generalizing b with
  | nil => simp [dropStart?, eq_comm]
  | cons x start ih =>
    cases b with
    | nil => simp [dropStart?]
    | cons y b =>
      rw [dropStart?]
      split
      · next hxy => simp [ih, hxy]
      · next hxy => simp [Ne.symm hxy]

/-- A name without NUL, the byte that ends the name of a set in its rows. -/
def NulFree (name : String) : Prop := 0 ∉ ofString name

instance (name : String) : Decidable (NulFree name) :=
  inferInstanceAs (Decidable (0 ∉ ofString name))

/-- The first NUL of a row key ends the name of the set, so sets do not share rows. -/
theorem setStart_append_inj {k j : String} (hk : NulFree k) (hj : NulFree j) {x y : Bytes}
    (h : setStart k ++ x = setStart j ++ y) : k = j ∧ x = y := by
  suffices hsplit : ∀ a b : Bytes, 0 ∉ a → 0 ∉ b → a ++ 0 :: x = b ++ 0 :: y → a = b ∧ x = y by
    simp only [setStart, List.append_assoc, List.cons_append, List.nil_append] at h
    obtain ⟨hname, hrest⟩ := hsplit _ _ hk hj h
    exact ⟨Bytes.ofString_inj hname, hrest⟩
  intro a
  induction a with
  | nil =>
    intro b _ hb heq
    cases b with
    | nil => simpa using heq
    | cons c b =>
      simp only [List.nil_append, List.cons_append, List.cons.injEq] at heq
      exact absurd (heq.1 ▸ List.mem_cons_self) hb
  | cons c a ih =>
    intro b ha hb heq
    cases b with
    | nil =>
      simp only [List.nil_append, List.cons_append, List.cons.injEq] at heq
      exact absurd (heq.1 ▸ List.mem_cons_self) ha
    | cons d b =>
      simp only [List.cons_append, List.cons.injEq] at heq
      obtain ⟨rfl, heq⟩ := heq
      obtain ⟨rfl, rfl⟩ := ih b (fun h0 => ha (List.mem_cons_of_mem _ h0))
        (fun h0 => hb (List.mem_cons_of_mem _ h0)) heq
      exact ⟨rfl, rfl⟩

theorem eq_of_starts {k j : String} (hk : NulFree k) (hj : NulFree j) {x : Bytes}
    (h : setStart k <+: setStart j ++ x) : k = j := by
  obtain ⟨y, hy⟩ := h
  exact (setStart_append_inj hk hj hy).1

theorem setStart_eq (name : String) : setStart name = ofString (name ++ "\x00") := by
  rw [setStart, Bytes.ofString_append]
  rfl

theorem setStart_inj {k j : String} (h : setStart k = setStart j) : k = j :=
  Bytes.ofString_inj (List.append_cancel_right h)

/-- What starts with the name of a set and with another name, starts with a name that goes on
    after the first NUL. -/
theorem exists_name_of_starts {k j : String} (hj : NulFree j) (hne : k ≠ j) {x : Bytes}
    (h : setStart k <+: setStart j ++ x) : ∃ t, k = j ++ "\x00" ++ t ∧ setStart t <+: x := by
  rcases List.prefix_or_prefix_of_prefix h (List.prefix_append _ x) with hshort | hlong
  · -- the other name ends before the NUL
    rcases List.prefix_concat_iff.1 hshort with heq | hinside
    · exact absurd (setStart_inj heq) hne
    · exact absurd (hinside.subset (by simp [setStart])) hj
  · rcases List.prefix_concat_iff.1 hlong with heq | hinside
    · exact absurd (setStart_inj heq).symm hne
    · rw [setStart_eq] at hinside
      obtain ⟨t, rfl⟩ := Bytes.exists_append_of_starts hinside
      refine ⟨t, rfl, ?_⟩
      have hstart : setStart (j ++ "\x00" ++ t) = setStart j ++ setStart t := by
        simp only [setStart_eq, Bytes.ofString_append, List.append_assoc]
      rw [hstart] at h
      exact (List.prefix_append_right_inj _).1 h

/-! ### Rows of `scores` and `members` -/

theorem scoreKey_eq (set : String) (s : Score) (m : String) :
    scoreKey set s m = setStart set ++ (encodeScore s ++ ofString m) := by
  rw [scoreKey, List.append_assoc]

theorem scoreKey_inj {k j : String} (hk : NulFree k) (hj : NulFree j) {s s' : Score}
    {m m' : String} (h : scoreKey k s m = scoreKey j s' m') : k = j ∧ s = s' ∧ m = m' := by
  rw [scoreKey_eq, scoreKey_eq] at h
  obtain ⟨hkj, hrest⟩ := setStart_append_inj hk hj h
  obtain ⟨hs, hm⟩ := List.append_inj hrest (by simp)
  exact ⟨hkj, encodeScore_inj hs, Bytes.ofString_inj hm⟩

theorem memberKey_inj {k j : String} (hk : NulFree k) (hj : NulFree j) {m m' : String}
    (h : memberKey k m = memberKey j m') : k = j ∧ m = m' := by
  obtain ⟨hkj, hm⟩ := setStart_append_inj hk hj h
  exact ⟨hkj, Bytes.ofString_inj hm⟩

/-- Reading a row of `scores` accepts exactly the keys that are written for the set. -/
theorem decodeScoreKey?_eq_some_iff {set : String} {b : Bytes} {s : Score} {m : String} :
    decodeScoreKey? set b = some (s, m) ↔ b = scoreKey set s m := by
  simp only [decodeScoreKey?, bind, pure, Option.bind_eq_some_iff, dropStart?_eq_some_iff,
    decodeScore?_eq_some_iff, Bytes.toString?_eq_some_iff, Option.some.injEq, Prod.mk.injEq]
  constructor
  · rintro ⟨rest, rfl, s', hs, m', hm, rfl, rfl⟩
    rw [scoreKey_eq, ← hs, ← hm, List.take_append_drop]
  · rintro rfl
    refine ⟨encodeScore s ++ ofString m, scoreKey_eq set s m, s, ?_, m, ?_, rfl, rfl⟩
    · exact List.take_left' (length_encodeScore s)
    · exact List.drop_left' (length_encodeScore s)

@[simp] theorem decodeScoreKey?_scoreKey (set : String) (s : Score) (m : String) :
    decodeScoreKey? set (scoreKey set s m) = some (s, m) :=
  decodeScoreKey?_eq_some_iff.2 rfl

/-- The rows of a set are ordered by score, and those of one score by the bytes of the member. -/
theorem scoreKey_lt_iff (set : String) (s s' : Score) (m m' : String) :
    scoreKey set s m < scoreKey set s' m' ↔ s < s' ∨ s = s' ∧ ofString m < ofString m' := by
  rw [scoreKey_eq, scoreKey_eq, Bytes.append_lt_append_left_iff,
    Bytes.append_lt_append_iff _ _ (by simp), encodeScore_lt_iff]
  constructor
  · rintro (h | ⟨h, h'⟩)
    · exact .inl h
    · exact .inr ⟨encodeScore_inj h, h'⟩
  · rintro (h | ⟨rfl, h'⟩)
    · exact .inl h
    · exact .inr ⟨rfl, h'⟩

/-! ### Rows of `values` -/

/-- Reading a value accepts exactly the rows that are written for one. -/
theorem decodeValue?_eq_some_iff {row : Bytes} {expires : UInt64} {payload : Bytes} :
    decodeValue? row = some (expires, payload) ↔ row = encodeValue expires payload := by
  have hword : expires.toNat < 256 ^ wordWidth := expires.toNat_lt
  constructor
  · intro h
    rw [decodeValue?] at h
    split at h
    · cases h
    · next hlong =>
      simp only [Option.some.injEq, Prod.mk.injEq] at h
      obtain ⟨hexpires, hpayload⟩ := h
      have hlen : (row.take wordWidth).length = wordWidth := by
        rw [List.length_take]
        omega
      have hlt : ofBigEndian (row.take wordWidth) < 2 ^ 64 := by
        have := Bytes.ofBigEndian_lt (row.take wordWidth)
        rwa [hlen] at this
      have hnum : expires.toNat = ofBigEndian (row.take wordWidth) := by
        rw [← hexpires, UInt64.toNat_ofNat_of_lt' hlt]
      have hhead : bigEndian wordWidth expires.toNat = row.take wordWidth := by
        have := Bytes.bigEndian_ofBigEndian (row.take wordWidth)
        rwa [hlen, ← hnum] at this
      rw [encodeValue, hhead, ← hpayload, List.take_append_drop]
  · rintro rfl
    have hlen : (bigEndian wordWidth expires.toNat).length = wordWidth := Bytes.length_bigEndian ..
    have hlong : ¬ (encodeValue expires payload).length < wordWidth := by
      simp [encodeValue]
    rw [decodeValue?, if_neg hlong, encodeValue, List.take_left' hlen, List.drop_left' hlen,
      Bytes.ofBigEndian_bigEndian, Nat.mod_eq_of_lt hword, UInt64.ofNat_toNat]

@[simp] theorem decodeValue?_encodeValue (expires : UInt64) (payload : Bytes) :
    decodeValue? (encodeValue expires payload) = some (expires, payload) :=
  decodeValue?_eq_some_iff.2 rfl

/-! ### All rows -/

/-- A set refuses what does not start like its rows. -/
theorem decodeScoreKey?_eq_none_of_not_starts {set : String} {b : Bytes}
    (h : ¬ setStart set <+: b) : decodeScoreKey? set b = none := by
  rw [Option.eq_none_iff_forall_ne_some]
  rintro ⟨s, m⟩ hdecoded
  rw [decodeScoreKey?_eq_some_iff, scoreKey_eq] at hdecoded
  exact h ⟨_, hdecoded.symm⟩

/-- Every reader accepts the bytes that its writer produces, with what they were written for, and
    no other bytes.  Where the names of sets hold no NUL, a row key tells its set, score and member,
    and no row of one set starts like those of another, whose reader refuses it. -/
theorem row_codecs_exact :
    (∀ b s, decodeScore? b = some s ↔ b = encodeScore s) ∧
    (∀ set b s m, decodeScoreKey? set b = some (s, m) ↔ b = scoreKey set s m) ∧
    (∀ b expires payload,
      decodeValue? b = some (expires, payload) ↔ b = encodeValue expires payload) ∧
    ∀ k j, NulFree k → NulFree j →
      (∀ s s' m m', scoreKey k s m = scoreKey j s' m' → k = j ∧ s = s' ∧ m = m') ∧
      (∀ m m', memberKey k m = memberKey j m' → k = j ∧ m = m') ∧
      (k ≠ j → ∀ s m,
        ¬ setStart k <+: scoreKey j s m ∧ ¬ setStart k <+: memberKey j m ∧
        decodeScoreKey? k (scoreKey j s m) = none ∧ decodeScoreKey? k (memberKey j m) = none) := by
  refine ⟨fun b s => decodeScore?_eq_some_iff, fun set b s m => decodeScoreKey?_eq_some_iff,
    fun b expires payload => decodeValue?_eq_some_iff, fun k j hk hj => ⟨?_, ?_, ?_⟩⟩
  · intro s s' m m' heq
    exact scoreKey_inj hk hj heq
  · intro m m' heq
    exact memberKey_inj hk hj heq
  · intro hne s m
    have hapart : ∀ x, ¬ setStart k <+: setStart j ++ x := fun x h => hne (eq_of_starts hk hj h)
    have hscore : ¬ setStart k <+: scoreKey j s m := scoreKey_eq j s m ▸ hapart _
    have hmember : ¬ setStart k <+: memberKey j m := hapart _
    exact ⟨hscore, hmember, decodeScoreKey?_eq_none_of_not_starts hscore,
      decodeScoreKey?_eq_none_of_not_starts hmember⟩

/-- A member that spells a row of the set `a`, behind the bytes of a score or not, is still no
    member of it. -/
theorem row_codecs_exact_spelling_member :
    NulFree "a" ∧ NulFree "ab" ∧ "a" ≠ "ab" ∧
      decodeScoreKey? "a" (memberKey "ab" "\x00a\x0012345678m") = none ∧
      decodeScoreKey? "a" (scoreKey "ab" 7 "a\x0012345678m") = none ∧
      memberKey "ab" "\x00a" ≠ memberKey "ab" "a" := by
  have hk : NulFree "a" := by decide
  have hj : NulFree "ab" := by decide
  have hne : "a" ≠ "ab" := by decide
  obtain ⟨-, -, -, happlied⟩ := row_codecs_exact
  obtain ⟨-, -, hapart⟩ := happlied "a" "ab" hk hj
  obtain ⟨-, hmember, -⟩ := happlied "ab" "ab" hj hj
  refine ⟨hk, hj, hne, (hapart hne 0 _).2.2.2, (hapart hne 7 _).2.2.1, fun heq => ?_⟩
  exact absurd (hmember _ _ heq).2 (by decide)

end JobResults.Embedded
