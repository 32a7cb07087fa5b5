import JobResults.Proofs.Config.EnvironmentText
import JobResults.Proofs.Config.Layers
import JobResults.Proofs.Text.Repaired
import JobResults.Proofs.Toml.Quoted

/-!
  # Overriding a text

  A duration or the path of the embedded backend may be given by a variable of the environment in
  place of a text in the file.  It means the same in both places but for the texts that the
  environment misreads, and these never mean the same (`override_eq_quoted`).  Every text can be
  written in a file (`gives_quotedFile`).
-/

namespace JobResults.Config

namespace Setting

/-- The settings that a text in the file says: the durations and the path. -/
def Worded : Setting → Prop
  | backend | addresses | database | minIdleConnections => False
  | dialTimeout | readTimeout | writeTimeout | idleTimeout | embeddedPath | expiry | metaExpiry
  | pipePeriod => True

/-- What a text means for a setting.  A path is meant as it is written. -/
def meant? : (k : Setting) → String → Option k.Carrier
  | embeddedPath, s => some s
  | dialTimeout, s | readTimeout, s | writeTimeout, s | idleTimeout, s => (Duration.parse s).toOption
  | expiry, s | metaExpiry, s | pipePeriod, s => (Duration.parse s).toOption
  | backend, _ | addresses, _ | database, _ | minIdleConnections, _ => none

/-- The texts that the environment does not take for what they mean. -/
def Misread : Setting → String → Prop
  | embeddedPath, s => Reworded s
  | _, s => MisreadDuration s.toList

/-! ### One value -/

variable {k : Setting}

theorem valueOf_path (h : k.Worded) (s : String) :
    valueOf k.path s = .scalar (some .environment) (scalarOf s) := by
  have hpath : k.path ≠ listSetting := by
    cases k with
    | addresses => exact h.elim
    | _ => decide +kernel
  unfold valueOf
  cases scalarOf s with
  | text t => exact if_neg hpath
  | _ => rfl

/-- In the file a text is read as what it means. -/
theorem toOption_read_text (h : k.Worded) (origin : Option Origin) (s : String) :
    (k.read (.scalar origin (.text s))).toOption = k.meant? s := by
  cases k with
  | backend | addresses | database | minIdleConnections => exact h.elim
  | embeddedPath => rfl
  | _ => exact toOption_duration_text origin s

theorem toOption_read_valueOf_iff (h : k.Worded) (s : String) :
    (k.read (valueOf k.path s)).toOption = k.meant? s ↔ ¬ k.Misread s := by
  rw [valueOf_path h]
  cases k with
  | backend | addresses | database | minIdleConnections => exact h.elim
  | embeddedPath => exact text_eq_iff s _
  | _ => exact duration_eq_parse_iff s _

theorem Misread.isTextChar {s : String} (h : k.Misread s) :
    ∀ c ∈ s.toList, Binary64.isTextChar c = true := by
  cases k with
  | embeddedPath => exact Reworded.isTextChar h
  | _ => exact MisreadDuration.isTextChar h

theorem toOption_mapError {α ε ε' : Type} (f : ε → ε') (x : Except ε α) :
    (x.mapError f).toOption = x.toOption := by
  cases x with
  | error e => rfl
  | ok a => rfl

theorem toOption_readGiven (k : Setting) (v : Value) :
    (k.readGiven (some v)).toOption = (k.read v).toOption :=
  toOption_mapError _ _

end Setting

/-! ### Loading -/

theorem toOption_eq_some_iff {α ε : Type} {x : Except ε α} {a : α} :
    x.toOption = some a ↔ x = .ok a := by
  cases x with
  | error e => simp [Except.toOption]
  | ok b => simp [Except.toOption]

theorem toOption_bind {α β ε : Type} (x : Except ε α) (f : α → Except ε β) :
    (x >>= f).toOption = x.toOption.bind fun a => (f a).toOption := by
  cases x with
  | error e => rfl
  | ok a => rfl

/-- What is loaded depends on what is read for each setting, whatever the faults are. -/
theorem toOption_loadGiven_congr {given other : Setting → Option Value}
    (h : ∀ k : Setting, (k.readGiven (given k)).toOption = (k.readGiven (other k)).toOption)
    (password : Option String) :
    (loadGiven given password).toOption = (loadGiven other password).toOption := by
  have hassembled : (assembled fun k => k.readGiven (given k)).toOption =
      (assembled fun k => k.readGiven (other k)).toOption := by
    have hread : ∀ (s : Settings) (k : Setting), k.readGiven (given k) = .ok (k.value s) ↔
        k.readGiven (other k) = .ok (k.value s) := by
      intro s k
      rw [← toOption_eq_some_iff, h k, toOption_eq_some_iff]
    refine Option.ext fun s => ?_
    simp only [toOption_eq_some_iff, assembled_eq_ok_iff, hread]
  simp only [loadGiven, toOption_bind, Setting.toOption_mapError, hassembled]

theorem Environment.OnlySettings.without {env : Environment} (h : env.OnlySettings) (k : Setting) :
    (env.without k).OnlySettings :=
  fun v hv => h v (List.mem_of_mem_filter hv)

theorem given?_without_self (env : Environment) (k : Setting) :
    (env.without k).given? k = none := by
  have hnone : (env.without k).reverse.lookup k.variableName = none := by
    rw [List.lookup_eq_none_iff]
    intro v hv
    have hname := (List.mem_filter.mp (List.mem_reverse.mp hv)).2
    rw [bne_iff_ne] at hname ⊢
    exact hname.symm
  rw [Environment.given?, hnone]
  rfl

/-! ### A file for every text -/

/-- The file that sets one setting to a text. -/
def quotedFile (k : Setting) (s : String) : Files :=
  ⟨[(["settings.toml"],
    .file (Bytes.ofString (String.ofList (Toml.pairLine k.home k.name s.toList))))]⟩

/-- The layer of that file. -/
def quotedLayer (k : Setting) (s : String) : Fields :=
  [(k.home, .table (some (.file "settings.toml"))
    [(k.name, .scalar (some (.file "settings.toml")) (.text s))])]

theorem find?_single (content : Bytes) :
    Source.find? ⟨[(["settings.toml"], .file content)]⟩ "settings.toml" =
      some ⟨"settings.toml", .toml, content⟩ := by
  have hsteps : stepsOf "settings.toml" = ["settings.toml"] := by decide +kernel
  have hplain : plainPath "settings.toml" = "settings.toml" := by decide +kernel
  have hformat : (extension? "settings.toml").bind Format.ofExtension? = some .toml := by
    decide +kernel
  have hempty : "settings.toml".isEmpty = false := by decide +kernel
  have hwants : Files.wantsDirectory "settings.toml" = false := by decide +kernel
  have hfind : (⟨[(["settings.toml"], .file content)]⟩ : Files).find? "settings.toml" =
      some (.file content) := by
    rw [Files.find?, hempty, hsteps]
    simp [Files.walk, Files.isDirectory, Files.at?, afterStep, hwants, List.lookup_cons]
  simp [Source.find?, hfind, hsteps, hformat, hplain]

theorem withoutMark_of_ascii {b : UInt8} (h : b ≠ 0xEF) (rest : Bytes) :
    withoutMark (b :: rest) = b :: rest := by
  unfold withoutMark
  split
  · next hmark => exact absurd (List.cons.inj hmark).1 h
  · rfl

theorem fileLayer_quotedFile (k : Setting) (s : String) :
    fileLayer (quotedFile k s) "settings.toml" = .ok (quotedLayer k s) := by
  have hhome : Toml.Bare k.home := by cases k <;> decide +kernel
  have hname : Toml.Bare k.name := by cases k <;> decide +kernel
  have hmark : ∀ rest, withoutMark (Bytes.ofString (String.ofList (k.home.toList ++ rest))) =
      Bytes.ofString (String.ofList (k.home.toList ++ rest)) := by
    intro rest
    obtain ⟨b, more, hbytes, hb⟩ : ∃ b more,
        Bytes.ofString (String.ofList (k.home.toList ++ rest)) = b :: more ∧ b ≠ 0xEF := by
      have hchar : k.home.toList.head? = some 's' ∨ k.home.toList.head? = some 'r' := by
        cases k <;> decide
      rw [Bytes.ofString_eq_flatMap, String.toList_ofList, List.flatMap_append]
      cases hchars : k.home.toList with
      | nil => exact absurd hchars hhome.1
      | cons c chars =>
        rw [hchars] at hchar
        rcases hchar with hc | hc <;> obtain rfl := Option.some.inj hc <;>
          exact ⟨_, _, rfl, by decide⟩
    rw [hbytes, withoutMark_of_ascii hb]
  have hline := Toml.document_pairLine hhome hname s.toList
  rw [String.ofList_toList] at hline
  have hfields : Source.fields? ⟨"settings.toml", .toml,
      Bytes.ofString (String.ofList (Toml.pairLine k.home k.name s.toList))⟩ =
        some (quotedLayer k s) := by
    rw [Source.fields?, Toml.pairLine, hmark, Text.repaired_ofString, String.toList_ofList]
    show (Toml.document (Toml.pairLine k.home k.name s.toList)).map _ = _
    rw [hline]
    rfl
  rw [fileLayer, quotedFile, find?_single]
  dsimp only
  rw [hfields]

/-- What that layer has for a setting. -/
theorem entry_quotedLayer (j k : Setting) (s : String) :
    (Value.table none (quotedLayer k s)).entry j =
      if j = k then some (.scalar (some (.file "settings.toml")) (.text s)) else none := by
  by_cases h : j = k
  · subst h
    simp [Value.entry, quotedLayer]
  · have hname : (j.name == k.name) = false := by simpa [Setting.name_inj] using h
    by_cases hhome : j.home = k.home
    · simp [Value.entry, quotedLayer, h, hhome, hname, List.lookup_cons]
    · simp [Value.entry, quotedLayer, h, beq_false_of_ne hhome, List.lookup_cons]

/-- Every text is there for a setting in some file that says nothing else. -/
theorem gives_quotedFile (k : Setting) (s : String) :
    ∃ tree, Gives (quotedFile k s) "settings.toml" tree ∧
      tree.entry k = some (.scalar (some (.file "settings.toml")) (.text s)) ∧
      ∀ j ≠ k, tree.entry j = none := by
  have hhome : pathOf k.home = [.field k.home] := by cases k <;> decide +kernel
  have hplain : ∀ field ∈ quotedLayer k s, pathOf field.1 = [.field field.1] := by
    intro field hfield
    rw [List.mem_singleton.mp hfield]
    exact hhome
  have hnodup : ((quotedLayer k s).map Prod.fst).Nodup := by simp [quotedLayer]
  have hsections : ∀ home origin fields,
      (quotedLayer k s).lookup home = some (.table origin fields) →
        (fields.map Prod.fst).Nodup := by
    intro home origin fields hlookup
    by_cases h : home = k.home
    · simp only [quotedLayer, List.lookup_cons, h, beq_self_eq_true, Option.some.injEq,
        Value.table.injEq] at hlookup
      simp [← hlookup.2]
    · simp [quotedLayer, List.lookup_cons, beq_false_of_ne h] at hlookup
  have hsectioned : Sectioned (.table none (quotedLayer k s)) :=
    sectioned_table (by simp [quotedLayer, Value.IsTable])
  have hentry : ∀ j, (Value.root.setAll (quotedLayer k s)).entry j =
      if j = k then some (.scalar (some (.file "settings.toml")) (.text s)) else none := by
    intro j
    rw [Value.entry_document hplain hnodup hsections, entry_quotedLayer]
    by_cases h : j = k
    · simp [h, Value.merge]
    · simp [h]
  refine ⟨Value.root.setAll (quotedLayer k s), ⟨?_, ?_⟩, ?_, fun j hj => ?_⟩
  · rw [fileLayer_quotedFile]
    rfl
  · exact Value.sectioned_document hplain hnodup hsectioned
  · rw [hentry, if_pos rfl]
  · rw [hentry, if_neg hj]

/-! ### The environment and the file -/

section Loading

variable {files files' : Files} {path path' : String} {tree tree' : Value} {env : Environment}
  {k : Setting} {s : String} {origin : Option Origin}

/-- The settings with a variable are those with its text in the file, as far as every setting but
    that one is concerned. -/
theorem readGiven_override_of_ne (hsame : ∀ j ≠ k, tree'.entry j = tree.entry j) {j : Setting}
    (hj : j ≠ k) :
    j.readGiven ((env.given? j).or (tree.entry j)) =
      j.readGiven (((env.without k).given? j).or (tree'.entry j)) := by
  rw [given?_without hj, hsame j hj]

theorem given?_or_of_lookup (henv : env.reverse.lookup k.variableName = some s) (v : Option Value) :
    (env.given? k).or v = some (valueOf k.path s) := by
  rw [Environment.given?, henv]
  rfl

theorem given?_or_of_entry (hentry : tree'.entry k = some (.scalar origin (.text s))) :
    ((env.without k).given? k).or (tree'.entry k) = some (.scalar origin (.text s)) := by
  rw [given?_without_self, hentry]
  rfl

end Loading

/-- A text in the environment means what it means in the file, unless it is misread.  A misread text
    never gives the same settings, and it has no characters but digits, letters, signs and
    points. -/
theorem override_eq_quoted (k : Setting) (hk : k.Worded) (s : String) :
    ((k.read (valueOf k.path s)).toOption = k.meant? s ↔ ¬ k.Misread s) ∧
    ((∃ c ∈ s.toList, Binary64.isTextChar c = false) → ¬ k.Misread s) ∧
    (∃ tree, Gives (quotedFile k s) "settings.toml" tree ∧
      tree.entry k = some (.scalar (some (.file "settings.toml")) (.text s)) ∧
      ∀ j ≠ k, tree.entry j = none) ∧
    ∀ files path tree env, Gives files path tree → env.OnlySettings →
      env.reverse.lookup k.variableName = some s →
      ∀ files' path' tree' origin, Gives files' path' tree' →
        tree'.entry k = some (.scalar origin (.text s)) →
        (∀ j ≠ k, tree'.entry j = tree.entry j) →
        let overridden := loadFrom files env path
        let quoted := loadFrom files' (env.without k) path'
        (¬ k.Misread s → overridden.toOption = quoted.toOption) ∧
          (k.Misread s → ∀ t, ¬ (overridden = .ok t ∧ quoted = .ok t)) ∧
          ∀ t, quoted = .ok t → k.meant? s = some (k.value t) := by
  refine ⟨Setting.toOption_read_valueOf_iff hk s, ?_, gives_quotedFile k s, ?_⟩
  · rintro ⟨c, hc, hother⟩ hmisread
    rw [hmisread.isTextChar c hc] at hother
    cases hother
  · intro files path tree env hfile henv hset files' path' tree' origin hfile' hentry hsame
      overridden quoted
    have hoverridden : overridden = _ := loadFrom_eq_loadGiven hfile henv
    have hquoted : quoted = _ := loadFrom_eq_loadGiven hfile' (henv.without k)
    have hread : (k.readGiven ((env.given? k).or (tree.entry k))).toOption =
        (k.read (valueOf k.path s)).toOption := by
      rw [given?_or_of_lookup hset, Setting.toOption_readGiven]
    have hread' : (k.readGiven (((env.without k).given? k).or (tree'.entry k))).toOption =
        k.meant? s := by
      rw [given?_or_of_entry hentry, Setting.toOption_readGiven, Setting.toOption_read_text hk]
    refine ⟨fun hnot => ?_, fun hmisread t ht => ?_, fun t ht => ?_⟩
    · rw [hoverridden, hquoted, password_without]
      refine toOption_loadGiven_congr (fun j => ?_) (password env)
      by_cases h : j = k
      · subst h
        rw [hread, hread', (Setting.toOption_read_valueOf_iff hk s).mpr hnot]
      · rw [readGiven_override_of_ne hsame h]
    · have hvalue := (loadGiven_ok (hoverridden ▸ ht.1)).2 k
      have hvalue' := (loadGiven_ok (hquoted ▸ ht.2)).2 k
      rw [← toOption_eq_some_iff] at hvalue hvalue'
      rw [hread] at hvalue
      rw [hread'] at hvalue'
      exact (Setting.toOption_read_valueOf_iff hk s).mp (hvalue.trans hvalue'.symm) hmisread
    · have hvalue' := (loadGiven_ok (hquoted ▸ ht)).2 k
      rw [← toOption_eq_some_iff, hread'] at hvalue'
      exact hvalue'

/-- Five minutes over one second, in a file that says something else besides. -/
theorem override_eq_quoted_minutes :
    let file : Files :=
      ⟨[(["c.toml"], .file (Bytes.ofString "[store]\nread_timeout = '1s'\ndb = 3\n"))]⟩
    let quoted : Files :=
      ⟨[(["c.toml"], .file (Bytes.ofString "[store]\ndb = 3\nread_timeout = \"5m\"\n"))]⟩
    let env : Environment := [("HOME", "/"), ("RESULTBOX__STORE__READ_TIMEOUT", "5m")]
    (loadFrom file env "c.toml").toOption = (loadFrom quoted [("HOME", "/")] "c.toml").toOption ∧
      ∃ t, loadFrom quoted [("HOME", "/")] "c.toml" = .ok t ∧
        (Duration.parse "5m").toOption = some t.store.readTimeout := by
  intro file quoted env
  let given : Origin := .file "c.toml"
  let three : String × Value := ("db", .scalar given (.integer 3))
  let second : String × Value := ("read_timeout", .scalar given (.text "1s"))
  let minutes : String × Value := ("read_timeout", .scalar given (.text "5m"))
  let tree : Value := .table none [("store", .table none [second, three])]
  let tree' : Value := .table none [("store", .table none [three, minutes])]
  have hfile : Gives file "c.toml" tree :=
    ⟨ok_of_toOption (by decide +kernel), sectioned_table (by decide)⟩
  have hfile' : Gives quoted "c.toml" tree' :=
    ⟨ok_of_toOption (by decide +kernel), sectioned_table (by decide)⟩
  have henv : env.OnlySettings := by
    intro v hv hset
    rcases List.mem_cons.mp hv with rfl | hv
    · exact absurd (by decide) hset
    · rw [List.mem_singleton.mp hv]
      exact .inr ⟨.readTimeout, by decide⟩
  have hsame : ∀ j ≠ Setting.readTimeout, tree'.entry j = tree.entry j := by
    intro j hj
    cases j with
    | readTimeout => exact absurd rfl hj
    | _ => decide +kernel
  obtain ⟨hread, -, -, hload⟩ := override_eq_quoted .readTimeout trivial "5m"
  have hnot : ¬ Setting.readTimeout.Misread "5m" := hread.mp (by decide +kernel)
  obtain ⟨hequal, -, hmeant⟩ := hload file "c.toml" tree env hfile henv (by decide) quoted "c.toml"
    tree' given hfile' (by decide +kernel) hsame
  have hwithout : env.without .readTimeout = [("HOME", "/")] := by decide
  rw [hwithout] at hequal hmeant
  let t : Settings := { store := { database := 3, readTimeout := seconds 300 } }
  have ht : loadFrom quoted [("HOME", "/")] "c.toml" = .ok t := ok_of_toOption (by decide +kernel)
  exact ⟨hequal hnot, t, ht, hmeant t ht⟩

/-- The zeros in front of a path are lost in the environment, and a number of seconds that the file
    accepts may be refused there, and the other way round. -/
theorem override_unlike_quoted :
    let paths : Files :=
      ⟨[(["c.toml"], .file (Bytes.ofString "store.fjall_path = \"007\"\n"))]⟩
    let large : Files :=
      ⟨[(["c.toml"], .file (Bytes.ofString "results.expiry = \"9223372036854775808\"\n"))]⟩
    let zero : Files := ⟨[(["c.toml"], .file (Bytes.ofString "results.expiry = \"-0\"\n"))]⟩
    let load (files : Files) (env : Environment) := (loadFrom files env "c.toml").toOption
    (load ⟨[]⟩ [("RESULTBOX__STORE__FJALL_PATH", "007")]).map (·.store.embeddedPath) = some "7" ∧
      (load paths []).map (·.store.embeddedPath) = some "007" ∧
      load ⟨[]⟩ [("RESULTBOX__RESULTS__EXPIRY", "9223372036854775808")] = none ∧
      (load large []).map (·.results.expiry) = some (seconds 9223372036854775808) ∧
      (load ⟨[]⟩ [("RESULTBOX__RESULTS__EXPIRY", "-0")]).map (·.results.expiry) = some .zero ∧
      load zero [] = none := by
  decide +kernel

end JobResults.Config
