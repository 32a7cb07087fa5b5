import Mathlib.Data.List.TakeWhile
import JobResults.Duration.Text
import JobResults.Proofs.Text.LowerCase

/-!
  # The grammar of durations

  `Denotes` says which texts denote a duration and which one: a number of seconds, or a number and
  the name of a unit with nothing but white space between them, where neither the number nor the
  product may be `2 ^ 64` or more.  The reader accepts exactly these texts with exactly these
  values, and a text that denotes nothing gets the first complaint of a fixed order
  (`parse_exact`).
-/

namespace JobResults

namespace TimeUnit

/-- A name is the name of one unit only. -/
theorem ofName?_eq_some_iff {name : String} {unit : TimeUnit} :
    ofName? name = some unit ↔ name ∈ unit.names := by
  have hnames : ∀ unit : TimeUnit, ∀ name ∈ unit.names, ofName? name = some unit := by
    intro unit
    cases unit <;> decide
  constructor
  · intro h
    have hfound := List.find?_some h
    exact List.contains_iff_mem.mp hfound
  · exact hnames unit name

theorem ofName?_eq_none_iff {name : String} :
    ofName? name = none ↔ ∀ unit ∈ all, name ∉ unit.names := by
  simp [ofName?]

/-- A name of a unit has no digits and no white space. -/
theorem plain_of_mem_names {unit : TimeUnit} {name : String} (h : name ∈ unit.names) :
    name.toList ≠ [] ∧ ∀ c ∈ name.toList, Text.isDigit c = false ∧ Text.isBlank c = false := by
  have hall : ∀ unit : TimeUnit, ∀ name ∈ unit.names,
      name.toList ≠ [] ∧
        name.toList.all (fun c => Text.isDigit c = false ∧ Text.isBlank c = false) = true := by
    intro unit
    cases unit <;> decide
  obtain ⟨hne, hplain⟩ := hall unit name h
  exact ⟨hne, fun c hc => of_decide_eq_true (List.all_eq_true.mp hplain c hc)⟩

end TimeUnit

namespace Duration

open Text (Numeral EndsBare isDigit isBlank)

/-- What a text denotes that is trimmed and in lower case. -/
inductive Denotes : List Char → Duration → Prop where
  | seconds {sign digits : List Char} {n : Nat} {d : Duration} (hsign : sign = [] ∨ sign = ['+'])
      (hdigits : Numeral digits n) (hn : n < 2 ^ 64) (hd : d.nanos = n * nanosPerSecond) :
      Denotes (sign ++ digits) d
  | units {digits gap : List Char} {name : String} {unit : TimeUnit} {n : Nat} {d : Duration}
      (hdigits : Numeral digits n) (hn : n < 2 ^ 64) (hgap : ∀ c ∈ gap, isBlank c = true)
      (hname : name ∈ unit.names) (hproduct : n * unit.nanos < 2 ^ 64)
      (hd : d.nanos = n * unit.nanos) :
      Denotes (digits ++ (gap ++ name.toList)) d

/-- The complaint about a text that denotes nothing, the first of four that applies. -/
def complaint (t : List Char) : ParseError :=
  let rest := t.dropWhile isDigit
  if t.head?.any isDigit = false ∨ t.all isDigit = true then .format (String.ofList t)
  else if 2 ^ 64 ≤ Text.digitsValue (t.takeWhile isDigit) then .number
  else if ∀ unit ∈ TimeUnit.all, String.ofList (Text.trim rest) ∉ unit.names then
    .unit (String.ofList (Text.trim rest))
  else .range (String.ofList t)

theorem ext_nanos {d d' : Duration} (h : d.nanos = d'.nanos) : d = d' := by
  obtain ⟨n, hn⟩ := d
  obtain ⟨n', hn'⟩ := d'
  obtain rfl : n = n' := h
  rfl

theorem nanos_ofSeconds {n : Nat} (hn : n < 2 ^ 64) :
    (ofSeconds (UInt64.ofNat n)).nanos = n * nanosPerSecond :=
  congrArg (· * nanosPerSecond) (UInt64.toNat_ofNat_of_lt' hn)

/-- How a text that is no plain number is read: by its leading digits and what follows them. -/
theorem parseNormal_of_not_plain {t : List Char} (h : Text.unsigned64? t = none) :
    parseNormal t =
      if t.takeWhile isDigit = [] ∨ t.dropWhile isDigit = [] then .error (.format (String.ofList t))
      else if 2 ^ 64 ≤ Text.digitsValue (t.takeWhile isDigit) then .error .number
      else
        let name := String.ofList (Text.trim (t.dropWhile isDigit))
        match TimeUnit.ofName? name with
        | none => .error (.unit name)
        | some unit =>
          if h : Text.digitsValue (t.takeWhile isDigit) * unit.nanos < 2 ^ 64 then .ok (ofWord _ h)
          else .error (.range (String.ofList t)) := by
  unfold parseNormal
  rw [h]
  by_cases hparts : t.takeWhile isDigit = [] ∨ t.dropWhile isDigit = []
  · have hnone : ((t.takeWhile isDigit).isEmpty || (t.dropWhile isDigit).isEmpty) = true := by
      simpa only [Bool.or_eq_true, List.isEmpty_iff] using hparts
    simp only [hnone, if_true, if_pos hparts]
  · have hdigits := Text.numeral_takeWhile (not_or.mp hparts).1
    have hsome : ((t.takeWhile isDigit).isEmpty || (t.dropWhile isDigit).isEmpty) = false := by
      simpa only [Bool.or_eq_false_iff, List.isEmpty_eq_false_iff, not_or] using hparts
    simp only [hsome, Bool.false_eq_true, if_false, if_neg hparts,
      Text.unsigned64?_of_numeral hdigits]
    by_cases hlt : Text.digitsValue (t.takeWhile isDigit) < 2 ^ 64
    · have hword : (UInt64.ofNat (Text.digitsValue (t.takeWhile isDigit))).toNat
          = Text.digitsValue (t.takeWhile isDigit) := UInt64.toNat_ofNat_of_lt' hlt
      cases hunit : TimeUnit.ofName? (String.ofList (Text.trim (t.dropWhile isDigit))) <;>
        simp only [if_pos hlt, if_neg (Nat.not_le.mpr hlt), hword]
    · simp only [if_neg hlt, if_pos (Nat.not_lt.mp hlt)]

/-! ### Accepted texts -/

section Units

variable {digits gap : List Char} {name : String} {unit : TimeUnit} {n : Nat}

theorem head_not_digit (hgap : ∀ c ∈ gap, isBlank c = true) (hname : name ∈ unit.names) :
    (gap ++ name.toList).head?.all (!isDigit ·) = true := by
  obtain ⟨hne, hplain⟩ := TimeUnit.plain_of_mem_names hname
  cases gap with
  | nil =>
    obtain ⟨c, rest, hchars⟩ := List.exists_cons_of_ne_nil hne
    simp [hchars, (hplain c (by simp [hchars])).1]
  | cons c rest =>
    have hc : isBlank c = true := hgap c List.mem_cons_self
    cases hdigit : isDigit c with
    | false => simp [hdigit]
    | true =>
      rw [Text.isBlank_of_isDigit hdigit] at hc
      cases hc

/-- A number and the name of a unit are no plain number. -/
theorem unsigned64?_units (hdigits : Numeral digits n) (gap : List Char)
    (hname : name ∈ unit.names) :
    Text.unsigned64? (digits ++ (gap ++ name.toList)) = none := by
  obtain ⟨hne, hplain⟩ := TimeUnit.plain_of_mem_names hname
  obtain ⟨c, hc⟩ := List.exists_mem_of_ne_nil _ hne
  have hdigit : isDigit c = false := (hplain c hc).1
  rw [Option.eq_none_iff_forall_ne_some]
  intro w hw
  obtain ⟨sign, digits', n', hsign, hchars, hdigits', -⟩ := Text.unsigned64?_eq_some_iff.mp hw
  have hmem : c ∈ sign ++ digits' := by simp [← hchars, hc]
  rcases List.mem_append.mp hmem with hc' | hc'
  · -- a plus sign would stand in front, where there is a digit
    obtain ⟨first, rest, rfl⟩ := List.exists_cons_of_ne_nil hdigits.ne_nil
    rcases hsign with rfl | rfl
    · cases hc'
    · have hfirst : first = '+' := (List.cons.inj hchars).1
      exact Text.head_ne_of_numeral hdigits (by decide) hfirst
  · rw [hdigits'.digits c hc'] at hdigit
    cases hdigit

/-- What is read out of a number and the name of a unit. -/
theorem parseNormal_units (hdigits : Numeral digits n) (hgap : ∀ c ∈ gap, isBlank c = true)
    (hname : name ∈ unit.names) :
    parseNormal (digits ++ (gap ++ name.toList)) =
      if 2 ^ 64 ≤ n then .error .number
      else if h : n * unit.nanos < 2 ^ 64 then .ok (ofWord _ h)
      else .error (.range (String.ofList (digits ++ (gap ++ name.toList)))) := by
  have hhead := head_not_digit hgap hname
  obtain ⟨hne, hplain⟩ := TimeUnit.plain_of_mem_names hname
  have htrim : Text.trim (gap ++ name.toList) = name.toList :=
    Text.trim_gap hgap fun c hc => (hplain c hc).2
  have hparts : ¬ (digits = [] ∨ gap ++ name.toList = []) := by simp [hdigits.ne_nil, hne]
  rw [parseNormal_of_not_plain (unsigned64?_units hdigits gap hname)]
  simp only [Text.takeWhile_isDigit hdigits.digits hhead, if_neg hparts, hdigits.value,
    Text.dropWhile_isDigit hdigits.digits hhead, htrim, String.ofList_toList,
    TimeUnit.ofName?_eq_some_iff.mpr hname]

end Units

/-- The digits in front of a text, the white space behind them, and the rest. -/
theorem split_units {t : List Char} (ht : EndsBare t) :
    t = t.takeWhile isDigit ++
      ((t.dropWhile isDigit).takeWhile isBlank ++ Text.trim (t.dropWhile isDigit)) := by
  have hsplit : t.takeWhile isDigit ++ t.dropWhile isDigit = t := List.takeWhile_append_dropWhile
  have hrest : EndsBare (t.dropWhile isDigit) := by
    rw [← hsplit] at ht
    exact ht.of_append
  rw [Text.trim_of_endsBare hrest, List.takeWhile_append_dropWhile, hsplit]

theorem denotes_of_parseNormal {t : List Char} (ht : EndsBare t) {d : Duration}
    (h : parseNormal t = .ok d) : Denotes t d := by
  cases hplain : Text.unsigned64? t with
  | some w =>
    obtain ⟨sign, digits, n, hsign, rfl, hdigits, hn, rfl⟩ :=
      Text.unsigned64?_eq_some_iff.mp hplain
    rw [parseNormal, hplain] at h
    rw [← Except.ok.inj h]
    exact .seconds hsign hdigits hn (nanos_ofSeconds hn)
  | none =>
    rw [parseNormal_of_not_plain hplain] at h
    split at h
    · cases h
    · next hparts =>
      split at h
      · cases h
      · next hlt =>
        dsimp only at h
        split at h
        · cases h
        · next unit hunit =>
          split at h
          · next hproduct =>
            have hname := TimeUnit.ofName?_eq_some_iff.mp hunit
            have hgap : ∀ c ∈ (t.dropWhile isDigit).takeWhile isBlank, isBlank c = true :=
              List.all_eq_true.mp List.all_takeWhile
            have hd : d.nanos = Text.digitsValue (t.takeWhile isDigit) * unit.nanos :=
              congrArg nanos (Except.ok.inj h).symm
            have hunits := Denotes.units (Text.numeral_takeWhile (not_or.mp hparts).1)
              (Nat.not_le.mp hlt) hgap hname hproduct hd
            rw [String.toList_ofList, ← split_units ht] at hunits
            exact hunits
          · cases h

theorem parseNormal_eq_ok_iff {t : List Char} (ht : EndsBare t) {d : Duration} :
    parseNormal t = .ok d ↔ Denotes t d := by
  constructor
  · exact denotes_of_parseNormal ht
  · rintro (⟨hsign, hdigits, hn, hd⟩ | ⟨hdigits, hn, hgap, hname, hproduct, hd⟩)
    · unfold parseNormal
      rw [Text.unsigned64?_eq_some_iff.mpr ⟨_, _, _, hsign, rfl, hdigits, hn, rfl⟩]
      exact congrArg Except.ok (ext_nanos ((nanos_ofSeconds hn).trans hd.symm))
    · rw [parseNormal_units hdigits hgap hname, if_neg (Nat.not_le.mpr hn), dif_pos hproduct]
      exact congrArg Except.ok (ext_nanos hd.symm)

theorem parse_eq_ok_iff {s : String} {d : Duration} :
    parse s = .ok d ↔ Denotes (Text.lower (Text.trim s.toList)) d :=
  parseNormal_eq_ok_iff (Text.endsBare_lower (Text.endsBare_trim s.toList))

/-- A text that denotes a duration starts with a digit or a plus sign. -/
theorem head_of_denotes {t : List Char} {d : Duration} (h : Denotes t d) :
    ∃ c, t.head? = some c ∧ (isDigit c = true ∨ c = '+') := by
  have hfirst : ∀ {digits : List Char} {n : Nat}, Numeral digits n → ∀ rest,
      ∃ c, (digits ++ rest).head? = some c ∧ isDigit c = true := by
    intro digits n hdigits rest
    obtain ⟨c, more, rfl⟩ := List.exists_cons_of_ne_nil hdigits.ne_nil
    exact ⟨c, rfl, hdigits.digits c List.mem_cons_self⟩
  cases h with
  | seconds hsign hdigits =>
    rcases hsign with rfl | rfl
    · obtain ⟨c, hc, hdigit⟩ := hfirst hdigits []
      rw [List.append_nil] at hc
      exact ⟨c, hc, .inl hdigit⟩
    · exact ⟨'+', rfl, .inr rfl⟩
  | units hdigits =>
    obtain ⟨c, hc, hdigit⟩ := hfirst hdigits _
    exact ⟨c, hc, .inl hdigit⟩

/-! ### Refused texts -/

theorem takeWhile_isDigit_eq_nil_iff {t : List Char} :
    t.takeWhile isDigit = [] ↔ t.head?.any isDigit = false := by
  cases t with
  | nil => simp
  | cons c rest => cases h : isDigit c <;> simp [h]

theorem dropWhile_isDigit_eq_nil_iff {t : List Char} :
    t.dropWhile isDigit = [] ↔ t.all isDigit = true := by
  rw [List.dropWhile_eq_nil_iff, List.all_eq_true]

theorem eq_complaint {t : List Char} {e : ParseError} (h : parseNormal t = .error e) :
    e = complaint t := by
  cases hplain : Text.unsigned64? t with
  | some w =>
    rw [parseNormal, hplain] at h
    cases h
  | none =>
    rw [parseNormal_of_not_plain hplain] at h
    simp only [takeWhile_isDigit_eq_nil_iff, dropWhile_isDigit_eq_nil_iff] at h
    simp only [complaint, ← TimeUnit.ofName?_eq_none_iff]
    split at h
    · next hparts =>
      rw [if_pos hparts]
      exact (Except.error.inj h).symm
    · next hparts =>
      rw [if_neg hparts]
      split at h
      · next hlt =>
        rw [if_pos hlt]
        exact (Except.error.inj h).symm
      · next hlt =>
        rw [if_neg hlt]
        split at h
        · next hunit =>
          rw [if_pos hunit]
          exact (Except.error.inj h).symm
        · next unit hunit =>
          rw [if_neg (by simp [hunit])]
          split at h
          · cases h
          · exact (Except.error.inj h).symm

/-- Reading accepts a text exactly if it denotes a duration, which is then the result.  Otherwise
    the complaint is the first that applies. -/
theorem parse_exact (s : String) :
    (∀ d, parse s = .ok d ↔ Denotes (Text.lower (Text.trim s.toList)) d) ∧
      ∀ e, parse s = .error e ↔
        (∀ d, ¬ Denotes (Text.lower (Text.trim s.toList)) d) ∧
          e = complaint (Text.lower (Text.trim s.toList)) := by
  let t := Text.lower (Text.trim s.toList)
  have hok : ∀ d, parse s = .ok d ↔ Denotes t d := fun d => parse_eq_ok_iff
  refine ⟨hok, fun e => ⟨?_, ?_⟩⟩
  · intro h
    refine ⟨fun d hd => ?_, eq_complaint h⟩
    rw [(hok d).mpr hd] at h
    cases h
  · rintro ⟨hnone, rfl⟩
    cases h : parse s with
    | ok d => exact absurd ((hok d).mp h) (hnone d)
    | error e => rw [eq_complaint h]

end Duration

end JobResults
