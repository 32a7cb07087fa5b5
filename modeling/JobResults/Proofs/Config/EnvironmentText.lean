import JobResults.Proofs.Binary64.Reading
import JobResults.Proofs.Config.Setting
import JobResults.Proofs.Duration.Grammar

/-!
  # Texts in the environment

  In the environment a text is first read as a truth value, an integer or a float (`Reads`), and
  what comes out is read for the setting.  For a duration or a path the text itself would do.  The
  detour makes a difference to a few texts only: `MisreadDuration` and `Reworded` say to which, and
  `duration_eq_parse_iff` and `text_eq_iff` that it makes none to any other one.
-/

namespace JobResults.Config

open Binary64 (isTextChar)
open Text (Numeral SignedNumeral isDigit isBlank)

/-! ### How a text is taken -/

/-- What a text in the environment is taken for. -/
inductive Reads (s : String) : Scalar → Prop where
  | boolean (b : Bool) (h : Text.lower s.toList = (toString b).toList) : Reads s (.boolean b)
  | integer (n : Int64) (h : Text.signed64? s.toList = some n) : Reads s (.integer n)
  | float (x : Binary64) (hinteger : Text.signed64? s.toList = none)
      (h : Binary64.parse? s.toList = some x) : Reads s (.float x)
  | text (hboolean : ∀ b : Bool, Text.lower s.toList ≠ (toString b).toList)
      (hinteger : Text.signed64? s.toList = none) (hfloat : Binary64.parse? s.toList = none) :
      Reads s (.text s)

theorem scalarOf_def (s : String) :
    scalarOf s =
      if Text.lower s.toList = (toString true).toList then .boolean true
      else if Text.lower s.toList = (toString false).toList then .boolean false
      else
        match Text.signed64? s.toList, Binary64.parse? s.toList with
        | some n, _ => .integer n
        | none, some x => .float x
        | none, none => .text s := by
  have hword : ∀ w : String, String.ofList (Text.lower s.toList) = w ↔
      Text.lower s.toList = w.toList := by
    intro w
    rw [← String.toList_inj, String.toList_ofList]
  unfold scalarOf
  simp only [hword]
  rfl

theorem reads_scalarOf (s : String) : Reads s (scalarOf s) := by
  rw [scalarOf_def]
  split
  · next htrue => exact .boolean true htrue
  · next htrue =>
    split
    · next hfalse => exact .boolean false hfalse
    · next hfalse =>
      cases hinteger : Text.signed64? s.toList with
      | some n => exact .integer n hinteger
      | none =>
        cases hfloat : Binary64.parse? s.toList with
        | some x => exact .float x hinteger hfloat
        | none => exact .text (Bool.forall_bool.mpr ⟨hfalse, htrue⟩) hinteger hfloat

/-! ### The characters of numbers and truth values -/

theorem isTextChar_of_signedNumeral {s : List Char} {v : Int} (h : SignedNumeral s v) :
    ∀ c ∈ s, isTextChar c = true :=
  h.forall_mem (by decide) (by decide) fun _ => Binary64.isTextChar_of_isDigit

theorem small_of_signedNumeral {s : List Char} {v : Int} (h : SignedNumeral s v) :
    ∀ c ∈ s, c.toNat < 65 := by
  refine h.forall_mem (by decide) (by decide) fun c hc => ?_
  have hrange := Text.toNat_of_isDigit hc
  omega

theorem letters_of_lower {s : List Char} {b : Bool} (h : Text.lower s = (toString b).toList) :
    ∀ c ∈ s, c.toNat < 128 ∧ 'a' ≤ c.toLower ∧ c.toLower ≤ 'z' := by
  have hword : ∀ b : Bool,
      (toString b).toList.all (fun x => 'a' ≤ x ∧ x ≤ 'z' ∧ x ≠ 'k') = true := by decide
  have hlower : ∀ x ∈ Text.lowerFrom [] s, 'a' ≤ x ∧ x ≤ 'z' ∧ x ≠ 'k' := by
    intro x hx
    exact of_decide_eq_true (List.all_eq_true.mp (hword b) x (h ▸ hx))
  exact Text.letter_of_lowerFrom hlower

theorem not_isDigit_of_lower {s : List Char} {b : Bool} (h : Text.lower s = (toString b).toList) :
    ∀ c ∈ s, isDigit c = false := by
  intro c hc
  have hletter : 97 ≤ c.toLower.toNat := (letters_of_lower h c hc).2.1
  rw [← Text.isDigit_toLower, Text.isDigit_of_large (by omega)]

/-- Only texts of digits, letters, signs and points are taken for anything but texts. -/
theorem Reads.isTextChar {s : String} {v : Scalar} (h : Reads s v) :
    v = .text s ∨ ∀ c ∈ s.toList, isTextChar c = true := by
  cases h with
  | boolean b h =>
    refine .inr fun c hc => ?_
    have hletter := letters_of_lower h c hc
    exact Binary64.isTextChar_of_toLower hletter.2.1 hletter.2.2
  | integer n h =>
    obtain ⟨v, hv, -⟩ := Text.signed64?_eq_some_iff.mp h
    exact .inr (isTextChar_of_signedNumeral hv)
  | float x _ h => exact .inr (Binary64.isTextChar_of_parse? h)
  | text => exact .inl rfl

/-- Such texts are already trimmed, and all ASCII. -/
theorem lower_trim_of_isTextChar {s : List Char} (h : ∀ c ∈ s, isTextChar c = true) :
    Text.lower (Text.trim s) = s.map Char.toLower := by
  rw [Text.trim_of_bare fun c hc => Binary64.isBlank_of_isTextChar (h c hc)]
  refine Text.lower_of_ascii fun c hc => ?_
  have hrange := Binary64.toNat_of_isTextChar (h c hc)
  omega

/-- Where the lower case is a digit or a sign, so is the character. -/
theorem map_toLower_eq {s t : List Char} (h : s.map Char.toLower = t)
    (ht : ∀ c ∈ t, c.toNat < 65) : s = t := by
  have hsame : ∀ c ∈ s, c.toLower = id c := by
    intro c hc
    have hsmall := ht c.toLower (h ▸ List.mem_map_of_mem hc)
    rcases Text.toLower_cases c with hsame | hcapital
    · exact hsame
    · omega
  rw [← h, List.map_congr_left hsame, List.map_id]

theorem lower_trim_signedNumeral {s : List Char} {v : Int} (h : SignedNumeral s v) :
    Text.lower (Text.trim s) = s := by
  have hchars := isTextChar_of_signedNumeral h
  rw [Text.trim_of_bare fun c hc => Binary64.isBlank_of_isTextChar (hchars c hc)]
  exact Text.lower_of_small fun c hc => .inl (small_of_signedNumeral h c hc)

/-! ### Durations -/

/-- The texts of durations that the environment does not take as they are: zero behind a minus
    sign, and a number of seconds in `[2 ^ 63, 2 ^ 64)`. -/
def MisreadDuration (s : List Char) : Prop :=
  (∃ digits, s = '-' :: digits ∧ Numeral digits 0) ∨
    ∃ n : Nat, SignedNumeral s n ∧ 2 ^ 63 ≤ n ∧ n < 2 ^ 64

theorem toOption_parse_eq_some_iff {s : String} {d : Duration} :
    (Duration.parse s).toOption = some d ↔
      Duration.Denotes (Text.lower (Text.trim s.toList)) d := by
  rw [← Duration.parse_eq_ok_iff]
  cases Duration.parse s with
  | ok d' => simp [Except.toOption]
  | error e => simp [Except.toOption]

/-- Neither a minus sign nor a letter starts a duration. -/
theorem toOption_parse_eq_none {s : String} {c : Char}
    (h : (Text.lower (Text.trim s.toList)).head? = some c) (hdigit : isDigit c = false)
    (hplus : c ≠ '+') : (Duration.parse s).toOption = none := by
  rw [Option.eq_none_iff_forall_ne_some]
  intro d hd
  obtain ⟨c', hc', hfirst⟩ := Duration.head_of_denotes (toOption_parse_eq_some_iff.mp hd)
  obtain rfl := Option.some.inj (hc'.symm.trans h)
  rcases hfirst with hfirst | hfirst
  · rw [hdigit] at hfirst
    cases hfirst
  · exact hplus hfirst

/-- A number of seconds below `2 ^ 64` without a minus sign. -/
theorem toOption_parse_positive {s : String} {sign digits : List Char} {n : Nat}
    (hs : s.toList = sign ++ digits) (hsign : sign = [] ∨ sign = ['+']) (hdigits : Numeral digits n)
    (hn : n < 2 ^ 64) :
    (Duration.parse s).toOption = some (Duration.ofSeconds (UInt64.ofNat n)) := by
  rw [toOption_parse_eq_some_iff, hs, lower_trim_signedNumeral (.positive hsign hdigits)]
  exact .seconds hsign hdigits hn (Duration.nanos_ofSeconds hn)

theorem toOption_parse_negative {s : String} {digits : List Char} {n : Nat}
    (hs : s.toList = '-' :: digits) (hdigits : Numeral digits n) :
    (Duration.parse s).toOption = none := by
  have hlower := lower_trim_signedNumeral (.negative hdigits)
  exact toOption_parse_eq_none (c := '-') (by rw [hs, hlower]; rfl) rfl (by decide)

theorem toOption_parse_boolean {s : String} {b : Bool}
    (h : Text.lower s.toList = (toString b).toList) : (Duration.parse s).toOption = none := by
  have hletters := letters_of_lower h
  have hbare : Text.trim s.toList = s.toList := by
    refine Text.trim_of_bare fun c hc => Binary64.isBlank_of_isTextChar ?_
    exact Binary64.isTextChar_of_toLower (hletters c hc).2.1 (hletters c hc).2.2
  cases b with
  | true => exact toOption_parse_eq_none (c := 't') (by rw [hbare, h]; rfl) rfl (by decide)
  | false => exact toOption_parse_eq_none (c := 'f') (by rw [hbare, h]; rfl) rfl (by decide)

/-- The name of a unit starts neither like an exponent nor with a point. -/
theorem not_isTail_of_names {gap : List Char} {name : String} {unit : TimeUnit}
    (hgap : ∀ c ∈ gap, isBlank c = true) (hname : name ∈ unit.names) {s : List Char}
    (h : s.map Char.toLower = gap ++ name.toList) : ¬ Binary64.IsTail s := by
  have hnames : ∀ unit : TimeUnit, ∀ name ∈ unit.names,
      name.toList.head?.any (fun c => c ≠ '.' ∧ c ≠ 'e') = true := by
    intro unit
    cases unit <;> decide
  obtain ⟨first, hfirst, hletter⟩ := (Option.any_eq_true _ _).mp (hnames unit name hname)
  obtain ⟨hpoint, hexponent⟩ := of_decide_eq_true hletter
  rintro (rfl | ⟨c, rest, rfl, hc, -⟩)
  · have hempty : name.toList = [] := (List.append_eq_nil_iff.mp h.symm).2
    rw [hempty] at hfirst
    cases hfirst
  · have hlower : c.toLower = '.' ∨ c.toLower = 'e' := by
      rcases hc with rfl | rfl | rfl <;> decide
    cases gap with
    | nil =>
      rw [← List.nil_append name.toList, ← h] at hfirst
      obtain rfl := Option.some.inj hfirst
      exact hlower.elim hpoint hexponent
    | cons g gap =>
      have hblank : isBlank g = true := hgap g List.mem_cons_self
      rw [← (List.cons.inj h).1] at hblank
      rcases hlower with hlower | hlower <;> rw [hlower] at hblank <;> cases hblank

/-- What is both a double and a duration is a plain number of seconds. -/
theorem signedNumeral_of_denotes {s : List Char} {x : Binary64} (hs : Binary64.parse? s = some x)
    {d : Duration} (h : Duration.Denotes (s.map Char.toLower) d) :
    ∃ n : Nat, SignedNumeral s n ∧ n < 2 ^ 64 := by
  generalize ht : s.map Char.toLower = t at h
  cases h with
  | @seconds sign digits n _ hsign hdigits hn =>
    have hnumber : SignedNumeral (sign ++ digits) n := .positive hsign hdigits
    rw [map_toLower_eq ht (small_of_signedNumeral hnumber)]
    exact ⟨n, hnumber, hn⟩
  | @units digits gap name unit n _ hdigits hn hgap hname =>
    obtain ⟨front, back, rfl, hfront, hback⟩ := List.map_eq_append_iff.mp ht
    have hnumber : SignedNumeral digits n := .positive (.inl rfl) hdigits
    obtain rfl : front = digits := map_toLower_eq hfront (small_of_signedNumeral hnumber)
    have hhead : back.head?.all (!isDigit ·) = true := by
      have hlower := Duration.head_not_digit hgap hname
      rw [← hback] at hlower
      cases back with
      | nil => rfl
      | cons c back => simpa [Text.isDigit_toLower] using hlower
    exact absurd (Binary64.tail_of_parse? hdigits.ne_nil hdigits.digits hhead hs)
      (not_isTail_of_names hgap hname hback)

/-- A positive number has no minus sign. -/
theorem exists_positive {s : List Char} {n : Nat} (h : SignedNumeral s n) (hn : 0 < n) :
    ∃ sign digits, s = sign ++ digits ∧ (sign = [] ∨ sign = ['+']) ∧ Numeral digits n := by
  generalize hv : (n : Int) = v at h
  rcases h with @⟨sign, digits, m, hsign, hdigits⟩ | @⟨digits, m, hdigits⟩
  · obtain rfl : n = m := Int.ofNat.inj hv
    exact ⟨sign, digits, rfl, hsign, hdigits⟩
  · omega

theorem MisreadDuration.signedNumeral {s : List Char} (h : MisreadDuration s) :
    ∃ v, SignedNumeral s v := by
  rcases h with ⟨digits, rfl, hdigits⟩ | ⟨n, hn, -⟩
  · exact ⟨_, .negative hdigits⟩
  · exact ⟨n, hn⟩

theorem not_signedNumeral_of_lower {s : List Char} {b : Bool}
    (h : Text.lower s = (toString b).toList) (v : Int) : ¬ SignedNumeral s v := by
  intro hv
  have hdigit : ∀ {digits : List Char} {n : Nat}, Numeral digits n → ¬ ∀ c ∈ digits, c ∈ s := by
    intro digits n hdigits hsub
    obtain ⟨c, hc⟩ := List.exists_mem_of_ne_nil digits hdigits.ne_nil
    have hno := not_isDigit_of_lower h c (hsub c hc)
    rw [hdigits.digits c hc] at hno
    cases hno
  cases hv with
  | positive _ hdigits => exact hdigit hdigits fun c hc => List.mem_append_right _ hc
  | negative hdigits => exact hdigit hdigits fun c hc => List.mem_cons_of_mem _ hc

theorem signed64?_ne_none {s : List Char} {v : Int} (h : SignedNumeral s v) (hlow : -2 ^ 63 ≤ v)
    (hhigh : v < 2 ^ 63) : Text.signed64? s ≠ none := by
  rw [Text.signed64?_eq_some_iff.mpr ⟨v, h, hlow, hhigh, rfl⟩]
  exact Option.some_ne_none _

theorem toOption_duration_integer (origin : Option Origin) {v : Int} (hlow : -2 ^ 63 ≤ v)
    (hhigh : v < 2 ^ 63) :
    (duration (.scalar origin (.integer (Int64.ofInt v)))).toOption =
      if v < 0 then none else some (Duration.ofSeconds (UInt64.ofNat v.toNat)) := by
  have hv : (Int64.ofInt v).toInt = v := Int64.toInt_ofInt_of_le hlow hhigh
  simp only [duration, Value.finding, Duration.ofFinding, hv]
  split
  · rfl
  · rfl

theorem toOption_duration_text (origin : Option Origin) (s : String) :
    (duration (.scalar origin (.text s))).toOption = (Duration.parse s).toOption := by
  simp only [duration, Value.finding, Duration.ofFinding]
  cases Duration.parse s with
  | ok d => rfl
  | error e => rfl

/-- An integer is read as the text is, but for zero behind a minus sign. -/
theorem duration_integer_iff {s : String} {w : Int64} (h : Text.signed64? s.toList = some w)
    (origin : Option Origin) :
    (duration (.scalar origin (.integer w))).toOption = (Duration.parse s).toOption ↔
      ¬ MisreadDuration s.toList := by
  obtain ⟨v, hv, hlow, hhigh, rfl⟩ := Text.signed64?_eq_some_iff.mp h
  rw [toOption_duration_integer origin hlow hhigh]
  generalize hs : s.toList = chars at hv
  cases hv with
  | @positive sign digits n hsign hdigits =>
    have hsome := toOption_parse_positive hs hsign hdigits (by omega)
    rw [if_neg (by omega), hsome]
    refine ⟨fun _ hmisread => ?_, fun _ => rfl⟩
    rcases hmisread with ⟨zeros, hzeros, hvalue⟩ | ⟨m, hm, hlarge, -⟩
    · -- a text that is read has no minus sign in front
      rw [toOption_parse_negative (hs.trans hzeros) hvalue] at hsome
      cases hsome
    · have hsame := hm.unique (.positive hsign hdigits)
      omega
  | @negative digits n hdigits =>
    rw [toOption_parse_negative hs hdigits]
    by_cases hn : n = 0
    · subst hn
      refine ⟨fun hsome => ?_, fun hnot => absurd (.inl ⟨digits, rfl, hdigits⟩) hnot⟩
      cases hsome
    · rw [if_pos (by omega)]
      refine ⟨fun _ hmisread => ?_, fun _ => rfl⟩
      rcases hmisread with ⟨zeros, hzeros, hvalue⟩ | ⟨m, hm, hlarge, -⟩
      · obtain rfl := (List.cons.inj hzeros).2
        exact hn (hdigits.value.symm.trans hvalue.value)
      · have hsame := hm.unique (.negative hdigits)
        omega

/-- What is misread and no 64-bit integer is a number of seconds beyond these. -/
theorem MisreadDuration.seconds {s : List Char} (h : MisreadDuration s)
    (hinteger : Text.signed64? s = none) :
    ∃ sign digits n, s = sign ++ digits ∧ (sign = [] ∨ sign = ['+']) ∧ Numeral digits n ∧
      n < 2 ^ 64 := by
  rcases h with ⟨zeros, rfl, hvalue⟩ | ⟨n, hn, hlow, hhigh⟩
  · exact absurd hinteger (signed64?_ne_none (.negative hvalue) (by decide) (by decide))
  · obtain ⟨sign, digits, hs, hsign, hdigits⟩ := exists_positive hn (by omega)
    exact ⟨sign, digits, n, hs, hsign, hdigits, hhigh⟩

/-- A float is refused, which is right for all texts but seconds beyond the 64-bit integers. -/
theorem toOption_parse_float {s : String} {x : Binary64} (hinteger : Text.signed64? s.toList = none)
    (hfloat : Binary64.parse? s.toList = some x) :
    (Duration.parse s).toOption = none ↔ ¬ MisreadDuration s.toList := by
  constructor
  · intro hnone hmisread
    obtain ⟨sign, digits, n, hs, hsign, hdigits, hhigh⟩ := hmisread.seconds hinteger
    rw [toOption_parse_positive hs hsign hdigits hhigh] at hnone
    cases hnone
  · intro hnot
    rw [Option.eq_none_iff_forall_ne_some]
    intro d hd
    have hdenotes := toOption_parse_eq_some_iff.mp hd
    rw [lower_trim_of_isTextChar (Binary64.isTextChar_of_parse? hfloat)] at hdenotes
    obtain ⟨n, hn, hhigh⟩ := signedNumeral_of_denotes hfloat hdenotes
    refine hnot (.inr ⟨n, hn, ?_, hhigh⟩)
    by_contra hlow
    exact signed64?_ne_none hn (by omega) (by omega) hinteger

/-- The environment reads a duration as its text is read, unless it misreads it. -/
theorem duration_eq_parse_iff (s : String) (origin : Option Origin) :
    (duration (.scalar origin (scalarOf s))).toOption = (Duration.parse s).toOption ↔
      ¬ MisreadDuration s.toList := by
  have hreads := reads_scalarOf s
  generalize scalarOf s = taken at hreads ⊢
  cases hreads with
  | boolean b h =>
    rw [toOption_parse_boolean h]
    refine ⟨fun _ hmisread => ?_, fun _ => rfl⟩
    obtain ⟨v, hv⟩ := hmisread.signedNumeral
    exact not_signedNumeral_of_lower h v hv
  | integer w h => exact duration_integer_iff h origin
  | float x hinteger hfloat => exact eq_comm.trans (toOption_parse_float hinteger hfloat)
  | text hboolean hinteger hfloat =>
    refine ⟨fun _ hmisread => ?_, fun _ => toOption_duration_text origin s⟩
    obtain ⟨sign, digits, n, hs, hsign, hdigits, -⟩ := hmisread.seconds hinteger
    obtain ⟨x, hx⟩ := Binary64.parse?_numeral hsign hdigits
    rw [hs, hx] at hfloat
    cases hfloat

/-! ### Paths -/

/-- A truth value, an integer or a float that is written in another way than it comes out. -/
def Reworded (s : String) : Prop :=
  (∃ b : Bool, Text.lower s.toList = (toString b).toList ∧ s ≠ toString b) ∨
    (∃ n, Text.signed64? s.toList = some n ∧ s ≠ Text.decimal n.toInt) ∨
    ∃ x, Text.signed64? s.toList = none ∧ Binary64.parse? s.toList = some x ∧ s ≠ x.plainText

/-- No truth value is a double. -/
theorem parse?_of_lower {s : List Char} {b : Bool} (h : Text.lower s = (toString b).toList) :
    Binary64.parse? s = none := by
  have hletters := letters_of_lower h
  have hmap : s.map Char.toLower = (toString b).toList := by
    rw [← h, Text.lower_of_ascii fun c hc => (hletters c hc).1]
  obtain ⟨c, rest, rfl, hc⟩ : ∃ c rest, s = c :: rest ∧ (c.toLower = 't' ∨ c.toLower = 'f') := by
    cases s with
    | nil => cases b <;> cases hmap
    | cons c rest =>
      cases b with
      | true => exact ⟨c, rest, rfl, .inl (List.cons.inj hmap).1⟩
      | false => exact ⟨c, rest, rfl, .inr (List.cons.inj hmap).1⟩
  have hne : ∀ d : Char, d.toLower ≠ 't' → d.toLower ≠ 'f' → c ≠ d := by
    rintro d htrue hfalse rfl
    exact hc.elim htrue hfalse
  have hsplit : Binary64.splitSign (c :: rest) = (false, c :: rest) := by
    unfold Binary64.splitSign
    split
    · next hs => exact absurd (List.cons.inj hs).1 (hne _ (by decide) (by decide))
    · next hs => exact absurd (List.cons.inj hs).1 (hne _ (by decide) (by decide))
    · rfl
  have hdigit : isDigit c = false := not_isDigit_of_lower h c List.mem_cons_self
  rw [Option.eq_none_iff_forall_ne_some]
  intro x hx
  rcases Binary64.cases_of_parse? hx with hword | hnumeral
  · rw [hsplit, Binary64.word, hmap, String.ofList_toList] at hword
    cases b <;> exact absurd hword (by decide)
  · rw [hsplit] at hnumeral
    have htail := Binary64.isTail_of_unsigned? hnumeral
    rw [List.dropWhile_cons_of_neg (by simp [hdigit])] at htail
    rcases htail with htail | ⟨d, more, hd, hcases, -⟩
    · cases htail
    · obtain rfl := (List.cons.inj hd).1
      rcases hcases with hd | hd | hd <;> exact hne _ (by decide) (by decide) hd

/-- A text is taken in one way only. -/
theorem Reads.scalarOf_eq {s : String} {v : Scalar} (h : Reads s v) : scalarOf s = v := by
  have hother : (∀ b : Bool, Text.lower s.toList ≠ (toString b).toList) →
      scalarOf s = match Text.signed64? s.toList, Binary64.parse? s.toList with
        | some n, _ => .integer n
        | none, some x => .float x
        | none, none => .text s := by
    intro hboolean
    rw [scalarOf_def, if_neg (hboolean true), if_neg (hboolean false)]
  cases h with
  | boolean b h =>
    rw [scalarOf_def, h]
    cases b <;> rfl
  | integer n h =>
    have hboolean : ∀ b : Bool, Text.lower s.toList ≠ (toString b).toList := by
      intro b hb
      obtain ⟨v, hv, -⟩ := Text.signed64?_eq_some_iff.mp h
      exact not_signedNumeral_of_lower hb v hv
    rw [hother hboolean, h]
  | float x hinteger h =>
    have hboolean : ∀ b : Bool, Text.lower s.toList ≠ (toString b).toList := by
      intro b hb
      rw [parse?_of_lower hb] at h
      cases h
    rw [hother hboolean, hinteger, h]
  | text hboolean hinteger hfloat => rw [hother hboolean, hinteger, hfloat]

/-- The environment takes a path as it is written, unless it is reworded. -/
theorem text_eq_iff (s : String) (origin : Option Origin) :
    (text (.scalar origin (scalarOf s))).toOption = some s ↔ ¬ Reworded s := by
  constructor
  · rintro hsame (⟨b, hb, hne⟩ | ⟨n, hn, hne⟩ | ⟨x, hinteger, hx, hne⟩)
    · rw [(Reads.boolean b hb).scalarOf_eq] at hsame
      exact hne (Option.some.inj hsame).symm
    · rw [(Reads.integer n hn).scalarOf_eq] at hsame
      exact hne (Option.some.inj hsame).symm
    · rw [(Reads.float x hinteger hx).scalarOf_eq] at hsame
      exact hne (Option.some.inj hsame).symm
  · intro hnot
    have hreads := reads_scalarOf s
    generalize scalarOf s = taken at hreads ⊢
    by_contra hne
    refine hnot ?_
    cases hreads with
    | boolean b h => exact .inl ⟨b, h, fun hs => hne (congrArg some hs.symm)⟩
    | integer n h => exact .inr (.inl ⟨n, h, fun hs => hne (congrArg some hs.symm)⟩)
    | float x hinteger h =>
      exact .inr (.inr ⟨x, hinteger, h, fun hs => hne (congrArg some hs.symm)⟩)
    | text => exact absurd rfl hne

theorem Reworded.isTextChar {s : String} (h : Reworded s) : ∀ c ∈ s.toList, isTextChar c = true := by
  rcases (reads_scalarOf s).isTextChar with htaken | hchars
  · have hsame := text_eq_iff s none
    rw [htaken] at hsame
    exact absurd h (hsame.mp rfl)
  · exact hchars

theorem MisreadDuration.isTextChar {s : List Char} (h : MisreadDuration s) :
    ∀ c ∈ s, isTextChar c = true := by
  obtain ⟨v, hv⟩ := h.signedNumeral
  exact isTextChar_of_signedNumeral hv

end JobResults.Config
