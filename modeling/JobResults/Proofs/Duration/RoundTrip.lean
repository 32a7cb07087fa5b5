import JobResults.Proofs.Duration.Grammar

/-!
  # Written durations read back

  Every duration is written as a number and the name of a unit, without loss (`exists_text_eq`).
  Reading the text gives the duration back exactly if its nanoseconds fit a 64-bit word.  A longer
  one is refused, never taken for another: because of the number if that does not fit a word, and
  else because of the product (`parse_text_eq`).
-/

namespace JobResults.Duration

open Text (Numeral EndsBare isDigit isBlank)

/-- The number in front of the unit in the text of a duration. -/
def writtenCount (d : Duration) : Nat := Text.digitsValue (d.text.toList.takeWhile isDigit)

/-! ### What is written -/

/-- A number of nanoseconds is written in a unit of the list that divides it, or in the last one,
    which divides every number. -/
theorem exists_textIn_eq (n : Nat) {units : List (TimeUnit × String)}
    (hunits : ∀ u ∈ units, u ∈ TimeUnit.written) :
    ∃ unit name, (unit, name) ∈ TimeUnit.written ∧ unit.nanos ∣ n ∧
      textIn n units = Text.decimal ↑(n / unit.nanos) ++ name := by
  induction units with
  | nil => exact ⟨.nanosecond, "ns", by decide, Nat.one_dvd n, by simp [textIn, TimeUnit.nanos]⟩
  | cons u rest ih =>
    obtain ⟨unit, name⟩ := u
    rw [List.forall_mem_cons] at hunits
    unfold textIn
    split
    · next hmod => exact ⟨unit, name, hunits.1, Nat.dvd_of_mod_eq_zero hmod, rfl⟩
    · exact ih hunits.2

/-- A duration is written as a number and the name of a unit whose product it is. -/
theorem exists_text_eq (d : Duration) :
    ∃ n unit name, (unit, name) ∈ TimeUnit.written ∧ n * unit.nanos = d.nanos ∧
      d.text.toList = Nat.toDigits 10 n ++ name.toList := by
  unfold text
  split
  · next hzero => exact ⟨0, .second, "s", by decide, by simp [hzero], by decide⟩
  · obtain ⟨unit, name, hmem, hdvd, htext⟩ := exists_textIn_eq d.nanos fun u hu => hu
    refine ⟨d.nanos / unit.nanos, unit, name, hmem, Nat.div_mul_cancel hdvd, ?_⟩
    rw [htext, String.toList_append, Text.toList_decimal]

/-- The names that are written are names that are read, in small ASCII letters. -/
theorem written_names {unit : TimeUnit} {name : String} (h : (unit, name) ∈ TimeUnit.written) :
    name ∈ unit.names ∧ ∀ c ∈ name.toList, 97 ≤ c.toNat ∧ c.toNat < 128 := by
  have hall : ∀ u ∈ TimeUnit.written,
      u.2 ∈ u.1.names ∧ u.2.toList.all (fun c => 97 ≤ c.toNat ∧ c.toNat < 128) = true := by decide
  obtain ⟨hread, hsmall⟩ := hall _ h
  exact ⟨hread, fun c hc => of_decide_eq_true (List.all_eq_true.mp hsmall c hc)⟩

/-! ### Reading it back -/

/-- What is written has neither white space nor capital letters, so it is read as it stands. -/
theorem parse_of_written {n : Nat} {unit : TimeUnit} {name : String}
    (hname : (unit, name) ∈ TimeUnit.written) {s : String}
    (hs : s.toList = Nat.toDigits 10 n ++ name.toList) : parse s = parseNormal s.toList := by
  have hnumeral := Text.numeral_toDigits n
  obtain ⟨hread, hsmall⟩ := written_names hname
  have hplain := (TimeUnit.plain_of_mem_names hread).2
  have htrim : Text.trim s.toList = s.toList := by
    refine Text.trim_of_bare fun c hc => ?_
    rw [hs, List.mem_append] at hc
    rcases hc with hc | hc
    · exact Text.isBlank_of_isDigit (hnumeral.digits c hc)
    · exact (hplain c hc).2
  have hlower : Text.lower s.toList = s.toList := by
    refine Text.lower_of_small fun c hc => ?_
    rw [hs, List.mem_append] at hc
    rcases hc with hc | hc
    · have hrange := Text.toNat_of_isDigit (hnumeral.digits c hc)
      omega
    · have hrange := hsmall c hc
      omega
  rw [parse, htrim, hlower]

/-- The text of a duration gives the duration back exactly if its nanoseconds fit a word.  A longer
    duration is refused for its number or else for the product. -/
theorem parse_text_eq (d : Duration) :
    (parse d.text = .ok d ↔ d.nanos < 2 ^ 64) ∧
      parse d.text =
        if d.nanos < 2 ^ 64 then .ok d
        else if writtenCount d < 2 ^ 64 then .error (.range d.text)
        else .error .number := by
  obtain ⟨n, unit, name, hwritten, hproduct, htext⟩ := exists_text_eq d
  obtain ⟨hname, -⟩ := written_names hwritten
  have hnumeral := Text.numeral_toDigits n
  have hcount : writtenCount d = n := by
    have hhead := head_not_digit (List.forall_mem_nil _) hname
    rw [List.nil_append] at hhead
    rw [writtenCount, htext, Text.takeWhile_isDigit hnumeral.digits hhead, hnumeral.value]
  have hread := parseNormal_units hnumeral (List.forall_mem_nil _) hname
  rw [List.nil_append, ← htext, ← parse_of_written hwritten htext, String.ofList_toList] at hread
  have heq : parse d.text =
      if d.nanos < 2 ^ 64 then .ok d
      else if writtenCount d < 2 ^ 64 then .error (.range d.text)
      else .error .number := by
    have hpos : 0 < unit.nanos := by cases unit <;> decide
    have hle : n ≤ n * unit.nanos := Nat.le_mul_of_pos_right n hpos
    rw [hread, hcount]
    by_cases hlt : d.nanos < 2 ^ 64
    · rw [if_pos hlt, if_neg (by omega), dif_pos (by omega)]
      exact congrArg Except.ok (ext_nanos hproduct)
    · rw [if_neg hlt, dif_neg (by omega)]
      by_cases hn : n < 2 ^ 64
      · rw [if_pos hn, if_neg (by omega)]
      · rw [if_neg hn, if_pos (by omega)]
  refine ⟨?_, heq⟩
  rw [heq]
  split
  · next hlt => exact ⟨fun _ => hlt, fun _ => rfl⟩
  · next hlt =>
    refine ⟨fun h => ?_, fun h => absurd h hlt⟩
    split at h <;> cases h

end JobResults.Duration
