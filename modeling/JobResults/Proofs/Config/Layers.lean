import JobResults.Proofs.Config.Password
import JobResults.Proofs.Config.Setting

/-!
  # The environment over the file over the defaults

  A variable of the environment puts its value where its setting stands, over whatever stands
  there, and touches no other setting (`entry_setAll`).  As every setting is read by itself, the
  settings that are loaded depend on one value for each of them: that of the environment or else
  that of the file (`loadFrom_eq_loadGiven`).
-/

namespace JobResults.Config

/-! ### The variables of settings -/

def upperCase (s : String) : String := String.ofList (s.toList.map Char.toUpper)

/-- The variable that sets a setting. -/
def Setting.variableName (k : Setting) : String :=
  "RESULTBOX__" ++ upperCase k.home ++ "__" ++ upperCase k.name

theorem Setting.settingOf?_variableName (k : Setting) :
    settingOf? k.variableName = some k.path := by
  cases k <;> decide +kernel

theorem Setting.variableName_inj {j k : Setting} : j.variableName = k.variableName ↔ j = k := by
  constructor
  · intro h
    have hpath : j.path = k.path := by
      have hj := j.settingOf?_variableName
      rw [h, k.settingOf?_variableName] at hj
      exact (Option.some.inj hj).symm
    have hsteps := j.pathOf_path
    rw [hpath, k.pathOf_path] at hsteps
    simp only [List.cons.injEq, Step.field.injEq] at hsteps
    exact Setting.name_inj.mp hsteps.2.1.symm
  · rintro rfl
    rfl

/-- The variable that looks like one of the password.  It sets a field that nothing reads. -/
def passwordLookalike : String := "RESULTBOX__STORE__PASSWORD"

/-- All variables that set anything are those of settings, in upper case. -/
def Environment.OnlySettings (env : Environment) : Prop :=
  ∀ v ∈ env, settingOf? v.1 ≠ none →
    v.1 = passwordLookalike ∨ ∃ k : Setting, v.1 = k.variableName

/-- The value that the environment gives a setting.  The last of several variables of one name
    counts. -/
def Environment.given? (env : Environment) (k : Setting) : Option Value :=
  (env.reverse.lookup k.variableName).map (valueOf k.path)

/-- A variable sets a field of a section, and its name tells which one. -/
theorem Environment.OnlySettings.steps {env : Environment} (henv : env.OnlySettings)
    {v : String × String} (hv : v ∈ env) {path : String} (hpath : settingOf? v.1 = some path) :
    ∃ home name, pathOf path = [.field home, .field name] ∧
      ∀ k : Setting, (k.home = home ∧ k.name = name ↔ v.1 = k.variableName) ∧
        (v.1 = k.variableName → path = k.path) := by
  rcases henv v hv (by simp [hpath]) with h | ⟨j, h⟩
  · have hlook : settingOf? passwordLookalike = some "store.password" := by decide
    rw [h, hlook] at hpath
    obtain rfl := Option.some.inj hpath
    refine ⟨"store", "password", by decide, fun k => ?_⟩
    rw [h]
    cases k <;> decide
  · rw [h, j.settingOf?_variableName] at hpath
    obtain rfl := Option.some.inj hpath
    refine ⟨j.home, j.name, j.pathOf_path, fun k => ?_⟩
    rw [h, Setting.variableName_inj, Setting.name_inj]
    refine ⟨⟨fun hk => hk.2.symm, ?_⟩, ?_⟩
    · rintro rfl
      exact ⟨rfl, rfl⟩
    · rintro rfl
      rfl

/-! ### Setting a field of a section -/

namespace Value

theorem field?_change (f : Value → Value) (name other : String) (path : List Step) (v : Value) :
    (change f (.field name :: path) v).field? other =
      if other = name then some (change f path ((v.field? name).getD absent))
      else v.field? other := by
  cases v with
  | scalar => simp [change, Data.lookup_assign, field?]
  | list => simp [change, Data.lookup_assign, field?]
  | table => simp [change, Data.lookup_assign]

theorem change_nil (f : Value → Value) (v : Value) : change f [] v = f v := by
  simp [change]

theorem isTable_change (f : Value → Value) (name : String) (path : List Step) (v : Value) :
    (change f (.field name :: path) v).IsTable := by
  simp [change, IsTable]

theorem merge_of_not_isTable {new : Value} (h : ¬ new.IsTable) (old : Value) :
    merge old new = new := by
  cases new with
  | scalar => simp [merge]
  | list => simp [merge]
  | table => exact absurd trivial h

end Value

theorem not_isTable_valueOf (setting s : String) : ¬ (valueOf setting s).IsTable := by
  unfold valueOf
  cases scalarOf s with
  | text =>
    dsimp only
    split
    · exact id
    · exact id
  | _ => exact id

/-- A value at a field of a section is there for the setting of that name, and for no other. -/
theorem entry_set {path home name : String} (hpath : pathOf path = [.field home, .field name])
    {value : Value} (hvalue : ¬ value.IsTable) (root : Value) (k : Setting) :
    (root.set path value).entry k =
      if k.home = home ∧ k.name = name then some value else root.entry k := by
  unfold Value.set Value.entry
  rw [hpath, Value.field?_change]
  by_cases hhome : k.home = home
  · subst hhome
    by_cases hname : k.name = name
    · simp [Value.field?_change, Value.change_nil, Value.merge_of_not_isTable hvalue, hname]
    · cases h : root.field? k.home with
      | none => simp [Value.field?_change, hname]
      | some v => simp [Value.field?_change, hname]
  · simp [hhome]

theorem Sectioned.set {path home name : String} {root : Value} (h : Sectioned root)
    (hpath : pathOf path = [.field home, .field name]) (value : Value) :
    Sectioned (root.set path value) := by
  have hsection : ∀ other v, (∀ v, root.field? other = some v → v.IsTable) →
      (root.set path value).field? other = some v → v.IsTable := by
    intro other v hother hv
    rw [Value.set, hpath, Value.field?_change] at hv
    split at hv
    · obtain rfl := Option.some.inj hv
      exact Value.isTable_change ..
    · exact hother v hv
  refine ⟨?_, fun v => hsection "store" v h.store, fun v => hsection "results" v h.results⟩
  rw [Value.set, hpath]
  exact Value.isTable_change ..

/-! ### The environment over a tree -/

theorem environmentLayer_cons (v : String × String) (env : Environment) :
    environmentLayer (v :: env) =
      match settingOf? v.1 with
      | none => environmentLayer env
      | some path => (path, valueOf path v.2) :: environmentLayer env := by
  cases h : settingOf? v.1 with
  | none => simp [environmentLayer, h]
  | some path => simp [environmentLayer, h]

theorem given?_cons (v : String × String) (env : Environment) (k : Setting) :
    Environment.given? (v :: env) k =
      (env.given? k).or (if v.1 = k.variableName then some (valueOf k.path v.2) else none) := by
  unfold Environment.given?
  obtain ⟨name, text⟩ := v
  rw [List.reverse_cons, List.lookup_append]
  cases List.lookup k.variableName env.reverse with
  | some value => simp
  | none =>
    by_cases h : name = k.variableName
    · simp [h]
    · simp [List.lookup_cons, h, beq_false_of_ne (Ne.symm h)]

theorem Environment.OnlySettings.tail {v : String × String} {env : Environment}
    (h : OnlySettings (v :: env)) : env.OnlySettings :=
  fun w hw => h w (List.mem_cons_of_mem v hw)

/-- The environment gives a setting its value, or leaves it the one that is there. -/
theorem entry_setAll {env : Environment} (henv : env.OnlySettings) (root : Value) (k : Setting) :
    (root.setAll (environmentLayer env)).entry k = (env.given? k).or (root.entry k) := by
  induction env generalizing root with
  | nil => rfl
  | cons v env ih =>
    rw [environmentLayer_cons, given?_cons, Option.or_assoc]
    cases hpath : settingOf? v.1 with
    | none =>
      have hother : v.1 ≠ k.variableName := by
        intro h
        rw [h, k.settingOf?_variableName] at hpath
        cases hpath
      simp [ih henv.tail, hother]
    | some path =>
      obtain ⟨home, name, hsteps, hname⟩ := henv.steps List.mem_cons_self hpath
      have hset := entry_set hsteps (not_isTable_valueOf path v.2) root k
      have hrest := ih henv.tail (root.set path (valueOf path v.2))
      simp only [Value.setAll, List.foldl_cons] at hrest ⊢
      rw [hrest, hset]
      by_cases h : v.1 = k.variableName
      · simp [(hname k).1, h, (hname k).2 h]
      · simp [(hname k).1, h]

theorem Sectioned.setAll {env : Environment} (henv : env.OnlySettings) {root : Value}
    (h : Sectioned root) : Sectioned (root.setAll (environmentLayer env)) := by
  induction env generalizing root with
  | nil => exact h
  | cons v env ih =>
    rw [environmentLayer_cons]
    cases hpath : settingOf? v.1 with
    | none => exact ih henv.tail h
    | some path =>
      obtain ⟨home, name, hsteps, -⟩ := henv.steps List.mem_cons_self hpath
      exact ih henv.tail (h.set hsteps _)

/-! ### The tree of a document

In a document whose names are neither paths nor given twice, what the tree has for a setting is
what the document has for it. -/

namespace Value

theorem setAll_table (origin : Option Origin) (olds : Fields) {layer : Fields}
    (hplain : ∀ field ∈ layer, pathOf field.1 = [.field field.1]) :
    (table origin olds).setAll layer = table origin (mergeFields olds layer) := by
  induction layer generalizing olds with
  | nil => simp [setAll, mergeFields]
  | cons field rest ih =>
    obtain ⟨name, new⟩ := field
    have hname : pathOf name = [.field name] := hplain (name, new) List.mem_cons_self
    have hset : (table origin olds).set name new =
        table origin (Data.assign name (merge ((olds.lookup name).getD absent) new) olds) := by
      simp [set, hname, change]
    have hrest := ih (Data.assign name (merge ((olds.lookup name).getD absent) new) olds)
      fun field hfield => hplain field (List.mem_cons_of_mem _ hfield)
    simp only [setAll, List.foldl_cons, hset] at hrest ⊢
    rw [hrest, mergeFields]

theorem lookup_mergeFields {news : Fields} (hnodup : (news.map Prod.fst).Nodup) (olds : Fields)
    (name : String) :
    (mergeFields olds news).lookup name =
      match news.lookup name with
      | none => olds.lookup name
      | some new => some (merge ((olds.lookup name).getD absent) new) := by
  induction news generalizing olds with
  | nil => simp [mergeFields]
  | cons field rest ih =>
    obtain ⟨other, new⟩ := field
    rw [List.map_cons, List.nodup_cons] at hnodup
    rw [mergeFields, ih hnodup.2, Data.lookup_assign]
    by_cases h : name = other
    · subst h
      have hrest : rest.lookup name = none := by
        rw [List.lookup_eq_none_iff]
        intro field hfield
        simp only [bne_iff_ne]
        rintro rfl
        exact hnodup.1 (List.mem_map.mpr ⟨field, hfield, rfl⟩)
      simp [hrest]
    · simp [h, List.lookup_cons, beq_false_of_ne h]

theorem field?_merge_absent {v : Value}
    (hnodup : ∀ origin fields, v = table origin fields → (fields.map Prod.fst).Nodup)
    (name : String) : (merge absent v).field? name = (v.field? name).map (merge absent) := by
  cases v with
  | scalar => simp [merge, field?]
  | list => simp [merge, field?]
  | table origin fields =>
    rw [merge, absent]
    · rw [field?_table, field?_table, lookup_mergeFields (hnodup origin fields rfl)]
      cases fields.lookup name with
      | none => rfl
      | some v => rfl
    · intro origin' fields' h
      cases h

variable {layer : Fields} (hplain : ∀ field ∈ layer, pathOf field.1 = [.field field.1])
  (hnodup : (layer.map Prod.fst).Nodup)

include hplain hnodup

theorem field?_setAll (name : String) :
    (root.setAll layer).field? name = (layer.lookup name).map (merge absent) := by
  rw [root, setAll_table none [] hplain, field?_table, lookup_mergeFields hnodup]
  cases layer.lookup name with
  | none => rfl
  | some v => rfl

theorem entry_document
    (hsections : ∀ home origin fields, layer.lookup home = some (table origin fields) →
      (fields.map Prod.fst).Nodup) (k : Setting) :
    (root.setAll layer).entry k = ((table none layer).entry k).map (merge absent) := by
  unfold entry
  rw [field?_setAll hplain hnodup, field?_table]
  cases h : layer.lookup k.home with
  | none => rfl
  | some v =>
    exact field?_merge_absent (fun origin fields hv => hsections k.home origin fields (hv ▸ h))
      k.name

theorem sectioned_document (h : Sectioned (table none layer)) : Sectioned (root.setAll layer) := by
  have hsection : ∀ home v, (∀ v, layer.lookup home = some v → v.IsTable) →
      (root.setAll layer).field? home = some v → v.IsTable := by
    intro home v hhome hv
    rw [field?_setAll hplain hnodup] at hv
    obtain ⟨v, hlookup, rfl⟩ := Option.map_eq_some_iff.mp hv
    obtain ⟨origin, fields, rfl⟩ := (hhome v hlookup).exists_fields
    simp [merge, absent, IsTable]
  refine ⟨?_, fun v => hsection "store" v h.store, fun v => hsection "results" v h.results⟩
  rw [root, setAll_table none [] hplain]
  trivial

end Value

/-! ### Loading -/

theorem sectioned_table {origin : Option Origin} {fields : Fields}
    (h : ∀ field ∈ fields, field.2.IsTable) : Sectioned (.table origin fields) := by
  have hfield : ∀ name v, fields.lookup name = some v → v.IsTable := by
    intro name v hv
    obtain ⟨before, after, rfl, -⟩ := List.lookup_eq_some_iff.mp hv
    exact h (name, v) (List.mem_append_right before List.mem_cons_self)
  exact ⟨trivial, hfield "store", hfield "results"⟩

/-- The file at a path, or that there is none, gives a tree of sections. -/
structure Gives (files : Files) (path : String) (tree : Value) : Prop where
  layer : (fileLayer files path).map Value.root.setAll = .ok tree
  sectioned : Sectioned tree

/-- The settings that are loaded where there is one value for each setting, or none. -/
def loadGiven (given : Setting → Option Value) (password : Option String) :
    Except LoadError Settings := do
  let s ← (assembled fun k => k.readGiven (given k)).mapError .fault
  checked (s.withPassword password)

theorem loadFrom_eq_loadGiven {files : Files} {path : String} {tree : Value}
    (hfile : Gives files path tree) {env : Environment} (henv : env.OnlySettings) :
    loadFrom files env path =
      loadGiven (fun k => (env.given? k).or (tree.entry k)) (password env) := by
  obtain ⟨layer, hlayer, rfl⟩ : ∃ layer, fileLayer files path = .ok layer ∧
      Value.root.setAll layer = tree := by
    have htree := hfile.layer
    cases hlayer : fileLayer files path with
    | error e => simp [hlayer, Except.map] at htree
    | ok layer => exact ⟨layer, rfl, by simpa [hlayer, Except.map] using htree⟩
  have hsettings := settings_eq_assembled (hfile.sectioned.setAll henv)
  simp only [entry_setAll henv] at hsettings
  simp only [loadFrom, loadGiven, resolve, merged, hlayer, hsettings, bind, Except.bind]
  cases assembled fun k => k.readGiven ((env.given? k).or ((Value.root.setAll layer).entry k)) with
  | error f => rfl
  | ok s => rfl

theorem loadGiven_ok {given : Setting → Option Value} {password : Option String} {s : Settings}
    (h : loadGiven given password = .ok s) :
    s.store.password = password ∧ ∀ k : Setting, k.readGiven (given k) = .ok (k.value s) := by
  obtain ⟨s₀, hs₀, hchecked⟩ := bind_eq_ok_iff.mp h
  have hs : s = s₀.withPassword password := by
    unfold checked at hchecked
    split at hchecked
    · exact (Except.ok.inj hchecked).symm
    · cases hchecked
  subst hs
  refine ⟨rfl, fun k => ?_⟩
  rw [(assembled_eq_ok_iff.mp (mapError_eq_ok_iff.mp hs₀)).2 k]
  cases k <;> rfl

/-! ### What decides a setting -/

/-- The environment without the variable of a setting. -/
def Environment.without (env : Environment) (k : Setting) : Environment :=
  env.filter fun v => v.1 != k.variableName

theorem given?_of_mem {env : Environment} {k : Setting} {text : String}
    (h : (k.variableName, text) ∈ env) : ∃ v, env.given? k = some v := by
  have hsome : (env.reverse.lookup k.variableName).isSome = true := by
    rw [List.lookup_isSome_iff]
    exact ⟨_, List.mem_reverse.mpr h, by simp⟩
  obtain ⟨text, htext⟩ := Option.isSome_iff_exists.mp hsome
  exact ⟨valueOf k.path text, by simp [Environment.given?, htext]⟩

theorem given?_without {j k : Setting} (h : j ≠ k) (env : Environment) :
    (env.without k).given? j = env.given? j := by
  have hname : (j.variableName != k.variableName) = true := by
    simpa [Setting.variableName_inj] using h
  unfold Environment.given? Environment.without
  rw [← List.filter_reverse, lookup_filter (· != k.variableName) _ hname]

theorem password_without (k : Setting) (env : Environment) :
    password (env.without k) = password env := by
  have hname : ∀ name, settingOf? name = none → (name != k.variableName) = true := by
    intro name hnone
    rw [bne_iff_ne]
    rintro rfl
    simp [k.settingOf?_variableName] at hnone
  unfold password Environment.without
  rw [lookup_filter (· != k.variableName) _ (hname _ (by decide)),
    lookup_filter (· != k.variableName) _ (hname _ (by decide))]

/-- A setting is that of the environment, or else that of the file, or else its default.  Where the
    environment sets it, no value in the file matters, of whatever type; and what one layer or both
    say about one setting changes no other one. -/
theorem layered_by_setting {files : Files} {path : String} {tree : Value}
    (hfile : Gives files path tree) {env : Environment} (henv : env.OnlySettings) (k : Setting) :
    ((∃ text, (k.variableName, text) ∈ env) →
      ∀ files' tree', Gives files' path tree' → (∀ j ≠ k, tree'.entry j = tree.entry j) →
        loadFrom files' env path = loadFrom files env path) ∧
    (∀ s, loadFrom files env path = .ok s →
      match env.reverse.lookup k.variableName with
      | some text => k.read (valueOf k.path text) = .ok (k.value s)
      | none =>
        match tree.entry k with
        | some v => k.read v = .ok (k.value s)
        | none => k.value s = k.default) ∧
    ∀ files' tree' env', Gives files' path tree' → env'.OnlySettings →
      (∀ j ≠ k, tree'.entry j = tree.entry j) → env'.without k = env.without k →
      ∀ s s', loadFrom files env path = .ok s → loadFrom files' env' path = .ok s' →
        s'.store.password = s.store.password ∧ ∀ j ≠ k, j.value s' = j.value s := by
  refine ⟨?_, ?_, ?_⟩
  · rintro ⟨text, htext⟩ files' tree' hfile' hsame
    obtain ⟨v, hv⟩ := given?_of_mem htext
    rw [loadFrom_eq_loadGiven hfile' henv, loadFrom_eq_loadGiven hfile henv]
    refine congrArg (loadGiven · (password env)) (funext fun j => ?_)
    by_cases h : j = k
    · subst h
      rw [hv, Option.some_or, Option.some_or]
    · rw [hsame j h]
  · intro s hs
    rw [loadFrom_eq_loadGiven hfile henv] at hs
    have hread := (loadGiven_ok hs).2 k
    unfold Environment.given? at hread
    cases htext : env.reverse.lookup k.variableName with
    | some text =>
      rw [htext] at hread
      exact mapError_eq_ok_iff.mp hread
    | none =>
      rw [htext, Option.map_none, Option.none_or] at hread
      cases hentry : tree.entry k with
      | some v =>
        rw [hentry] at hread
        exact mapError_eq_ok_iff.mp hread
      | none =>
        rw [hentry] at hread
        exact (Except.ok.inj hread).symm
  · intro files' tree' env' hfile' henv' hsame hwithout s s' hs hs'
    rw [loadFrom_eq_loadGiven hfile henv] at hs
    rw [loadFrom_eq_loadGiven hfile' henv'] at hs'
    obtain ⟨hpassword, hvalue⟩ := loadGiven_ok hs
    obtain ⟨hpassword', hvalue'⟩ := loadGiven_ok hs'
    refine ⟨?_, fun j hj => ?_⟩
    · rw [hpassword', hpassword, ← password_without k env', hwithout, password_without]
    · have hgiven : env'.given? j = env.given? j := by
        rw [← given?_without hj env', hwithout, given?_without hj]
      have hread := hvalue' j
      rw [hgiven, hsame j hj, hvalue j] at hread
      exact (Except.ok.inj hread).symm

/-- The file gives the database a text that is no number.  Without the variable that is a fault, and
    with it it makes no difference to a file that says nothing about the database. -/
theorem layered_by_setting_database :
    let wrong : Files :=
      ⟨[(["c.toml"], .file (Bytes.ofString
        "[store]\ndb = 'three'\nread_timeout = '500ms'\n[results]\nexpiry = '1h'\n"))]⟩
    let right : Files :=
      ⟨[(["c.toml"], .file (Bytes.ofString
        "results.expiry = '1h'\n[store]\nread_timeout = '500ms'\n"))]⟩
    let seven : Environment := [("HOME", "/"), ("RESULTBOX__STORE__DB", "7")]
    let eight : Environment := [("RESULTBOX__STORE__DB", "8"), ("HOME", "/")]
    (loadFrom wrong [] "c.toml").toOption = none ∧
      loadFrom right seven "c.toml" = loadFrom wrong seven "c.toml" ∧
      ∃ s s', loadFrom wrong seven "c.toml" = .ok s ∧ loadFrom right eight "c.toml" = .ok s' ∧
        signed (.scalar (some .environment) (.integer 7)) = .ok s.store.database ∧
        duration (.scalar (some (.file "c.toml")) (.text "500ms")) = .ok s.store.readTimeout ∧
        s.store.backend = .remote ∧ s'.store.password = s.store.password ∧
        ∀ j ≠ Setting.database, j.value s' = j.value s := by
  intro wrong right seven eight
  let given : Origin := .file "c.toml"
  let wait : String × Value := ("read_timeout", .scalar given (.text "500ms"))
  let results : String × Value :=
    ("results", .table none [("expiry", .scalar given (.text "1h"))])
  let wrongTree : Value := .table none
    [("store", .table none [("db", .scalar given (.text "three")), wait]), results]
  let rightTree : Value := .table none [results, ("store", .table none [wait])]
  have hwrong : Gives wrong "c.toml" wrongTree :=
    ⟨ok_of_toOption (by decide +kernel), sectioned_table (by decide)⟩
  have hright : Gives right "c.toml" rightTree :=
    ⟨ok_of_toOption (by decide +kernel), sectioned_table (by decide)⟩
  have hseven : seven.OnlySettings := by
    intro v hv hset
    rcases List.mem_cons.mp hv with rfl | hv
    · exact absurd (by decide) hset
    · rw [List.mem_singleton.mp hv]
      exact .inr ⟨.database, by decide⟩
  have height : eight.OnlySettings := by
    intro v hv hset
    rcases List.mem_cons.mp hv with rfl | hv
    · exact .inr ⟨.database, by decide⟩
    · rw [List.mem_singleton.mp hv] at hset
      exact absurd (by decide) hset
  have hsame : ∀ j ≠ Setting.database, rightTree.entry j = wrongTree.entry j := by
    intro j hj
    cases j with
    | database => exact absurd rfl hj
    | _ => decide +kernel
  let s : Settings :=
    { store := { database := 7, readTimeout := Duration.ofMillis 500 }
      results := { expiry := seconds 3600 } }
  have hs : loadFrom wrong seven "c.toml" = .ok s := ok_of_toOption (by decide +kernel)
  let s' : Settings := { s with store := { s.store with database := 8 } }
  have hs' : loadFrom right eight "c.toml" = .ok s' := ok_of_toOption (by decide +kernel)
  obtain ⟨hharmless, hdatabase, hothers⟩ := layered_by_setting hwrong hseven .database
  obtain ⟨-, hwait, -⟩ := layered_by_setting hwrong hseven .readTimeout
  obtain ⟨-, hbackend, -⟩ := layered_by_setting hwrong hseven .backend
  obtain ⟨hpassword, hvalues⟩ :=
    hothers right rightTree eight hright height hsame (by decide) _ _ hs hs'
  exact ⟨by decide +kernel, hharmless ⟨"7", by decide⟩ right rightTree hright hsame, _, _, hs, hs',
    hdatabase _ hs, hwait _ hs, hbackend _ hs, hpassword, hvalues⟩

end JobResults.Config
