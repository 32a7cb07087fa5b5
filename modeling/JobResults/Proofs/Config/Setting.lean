import JobResults.Config.Load

/-!
  # One setting at a time

  Twelve settings stand in two sections.  Where both sections are tables, reading the settings is
  reading each of them by itself, from the one value that is there for it (`settings_eq_assembled`);
  no value is looked at for a setting that is not its own.  What comes out has each setting as it
  was read, and nothing comes out unless all of them can be read (`assembled_eq_ok_iff`).
-/

namespace JobResults.Config

/-! ### The settings -/

/-- The settings of both sections.  The password is none of them. -/
inductive Setting where
  | backend
  | addresses
  | database
  | dialTimeout
  | readTimeout
  | writeTimeout
  | idleTimeout
  | minIdleConnections
  | embeddedPath
  | expiry
  | metaExpiry
  | pipePeriod
  deriving DecidableEq, Repr

namespace Setting

/-- The section that a setting stands in. -/
def home : Setting → String
  | expiry | metaExpiry | pipePeriod => "results"
  | _ => "store"

def name : Setting → String
  | backend => "backend"
  | addresses => "addrs"
  | database => "db"
  | dialTimeout => "dial_timeout"
  | readTimeout => "read_timeout"
  | writeTimeout => "write_timeout"
  | idleTimeout => "idle_timeout"
  | minIdleConnections => "min_idle_conns"
  | embeddedPath => "fjall_path"
  | expiry => "expiry"
  | metaExpiry => "meta_expiry"
  | pipePeriod => "pipe_period"

/-- The place of a setting in a section that is a list. -/
def place : Setting → Nat
  | backend | expiry => 0
  | addresses | metaExpiry => 1
  | database | pipePeriod => 2
  | dialTimeout => 3
  | readTimeout => 4
  | writeTimeout => 5
  | idleTimeout => 6
  | minIdleConnections => 7
  | embeddedPath => 8

def path (k : Setting) : String := k.home ++ "." ++ k.name

def all : List Setting :=
  [backend, addresses, database, dialTimeout, readTimeout, writeTimeout, idleTimeout,
    minIdleConnections, embeddedPath, expiry, metaExpiry, pipePeriod]

/-- The setting is known by its name, without the section. -/
theorem find_name (k : Setting) : all.find? (fun j => j.name = k.name) = some k := by
  cases k <;> decide

theorem name_inj {j k : Setting} : j.name = k.name ↔ j = k := by
  constructor
  · intro h
    have hj := find_name j
    rw [h, find_name k] at hj
    exact (Option.some.inj hj).symm
  · rintro rfl
    rfl

theorem pathOf_path (k : Setting) : pathOf k.path = [.field k.home, .field k.name] := by
  cases k <;> decide

/-! ### Reading one setting -/

/-- What a setting is. -/
abbrev Carrier : Setting → Type
  | backend => BackendKind
  | addresses => List String
  | database => Int64
  | minIdleConnections => UInt64
  | embeddedPath => String
  | _ => Duration

def read : (k : Setting) → Decoder k.Carrier
  | backend => backendKind
  | addresses => texts
  | database => signed
  | dialTimeout | readTimeout | writeTimeout | idleTimeout => duration
  | minIdleConnections => unsigned
  | embeddedPath => text
  | expiry | metaExpiry | pipePeriod => duration

/-- The documented defaults. -/
def default : (k : Setting) → k.Carrier
  | backend => .remote
  | addresses => ["127.0.0.1:6379"]
  | database => 0
  | dialTimeout => Duration.ofSeconds 5
  | readTimeout | writeTimeout => Duration.ofSeconds 3
  | idleTimeout => Duration.ofSeconds 300
  | minIdleConnections => 0
  | embeddedPath => "data/results"
  | expiry | metaExpiry | pipePeriod => .zero

/-- A setting of settings. -/
def value (s : Settings) : (k : Setting) → k.Carrier
  | backend => s.store.backend
  | addresses => s.store.addresses
  | database => s.store.database
  | dialTimeout => s.store.dialTimeout
  | readTimeout => s.store.readTimeout
  | writeTimeout => s.store.writeTimeout
  | idleTimeout => s.store.idleTimeout
  | minIdleConnections => s.store.minIdleConnections
  | embeddedPath => s.store.embeddedPath
  | expiry => s.results.expiry
  | metaExpiry => s.results.metaExpiry
  | pipePeriod => s.results.pipePeriod

/-- A setting by itself, out of the value that is there for it. -/
def readGiven (k : Setting) : Option Value → Except Fault k.Carrier
  | none => .ok k.default
  | some v => (k.read v).mapError fun f => (f.under (.field k.name)).under (.field k.home)

end Setting

/-! ### Assembling settings -/

/-- What each setting is read as. -/
abbrev SettingReader := (k : Setting) → Except Fault k.Carrier

/-- The settings of the backend, one by one.  The first fault is the fault of all. -/
def assembledStore (one : SettingReader) : Except Fault StoreSettings := do
  return {
    backend := ← one .backend
    addresses := ← one .addresses
    password := none
    database := ← one .database
    dialTimeout := ← one .dialTimeout
    readTimeout := ← one .readTimeout
    writeTimeout := ← one .writeTimeout
    idleTimeout := ← one .idleTimeout
    minIdleConnections := ← one .minIdleConnections
    embeddedPath := ← one .embeddedPath }

def assembledOptions (one : SettingReader) : Except Fault Options := do
  return {
    expiry := ← one .expiry
    metaExpiry := ← one .metaExpiry
    pipePeriod := ← one .pipePeriod }

def assembled (one : SettingReader) : Except Fault Settings := do
  return { store := ← assembledStore one, results := ← assembledOptions one }

theorem bind_eq_ok_iff {α β ε : Type} {x : Except ε α} {f : α → Except ε β} {b : β} :
    x >>= f = .ok b ↔ ∃ a, x = .ok a ∧ f a = .ok b := by
  cases x with
  | error e => simp [bind, Except.bind]
  | ok a => simp [bind, Except.bind]

theorem mapError_eq_ok_iff {α ε ε' : Type} {f : ε → ε'} {x : Except ε α} {a : α} :
    x.mapError f = .ok a ↔ x = .ok a := by
  cases x with
  | error e => exact ⟨nofun, nofun⟩
  | ok b =>
    constructor
    · intro h
      exact congrArg Except.ok (Except.ok.inj h)
    · intro h
      exact congrArg Except.ok (Except.ok.inj h)

theorem mapError_bind {α β ε ε' : Type} (g : ε → ε') (x : Except ε α) (f : α → Except ε β) :
    (x >>= f).mapError g = x.mapError g >>= fun a => (f a).mapError g := by
  cases x with
  | error e => rfl
  | ok a => rfl

theorem mapError_mapError {α ε ε' ε'' : Type} (g : ε → ε') (h : ε' → ε'') (x : Except ε α) :
    (x.mapError g).mapError h = x.mapError fun e => h (g e) := by
  cases x with
  | error e => rfl
  | ok a => rfl

theorem assembled_eq_ok_iff {one : SettingReader} {s : Settings} :
    assembled one = .ok s ↔ s.store.password = none ∧ ∀ k, one k = .ok (k.value s) := by
  constructor
  · intro h
    simp only [assembled, assembledStore, assembledOptions, bind_eq_ok_iff, pure, Except.pure,
      Except.ok.injEq] at h
    obtain ⟨_, ⟨_, h₁, _, h₂, _, h₃, _, h₄, _, h₅, _, h₆, _, h₇, _, h₈, _, h₉, rfl⟩,
      _, ⟨_, h₁₀, _, h₁₁, _, h₁₂, rfl⟩, rfl⟩ := h
    refine ⟨rfl, fun k => ?_⟩
    cases k <;> assumption
  · rintro ⟨hpassword, h⟩
    obtain ⟨⟨_, _, password, _, _, _, _, _, _, _⟩, _, _, _⟩ := s
    obtain rfl : password = none := hpassword
    simp only [assembled, assembledStore, assembledOptions, h, Setting.value, bind, Except.bind,
      pure, Except.pure]

section Congruence

variable {one other : SettingReader}

theorem assembledStore_mapError (g : Fault → Fault) :
    (assembledStore one).mapError g = assembledStore fun k => (one k).mapError g := by
  simp only [assembledStore, mapError_bind]
  rfl

theorem assembledOptions_mapError (g : Fault → Fault) :
    (assembledOptions one).mapError g = assembledOptions fun k => (one k).mapError g := by
  simp only [assembledOptions, mapError_bind]
  rfl

theorem assembledStore_congr (h : ∀ k : Setting, k.home = "store" → one k = other k) :
    assembledStore one = assembledStore other := by
  simp only [assembledStore, h .backend rfl, h .addresses rfl, h .database rfl, h .dialTimeout rfl,
    h .readTimeout rfl, h .writeTimeout rfl, h .idleTimeout rfl, h .minIdleConnections rfl,
    h .embeddedPath rfl]

theorem assembledOptions_congr (h : ∀ k : Setting, k.home = "results" → one k = other k) :
    assembledOptions one = assembledOptions other := by
  simp only [assembledOptions, h .expiry rfl, h .metaExpiry rfl, h .pipePeriod rfl]

end Congruence

/-! ### Settings in tables -/

namespace Value

/-- A field of a table. -/
def field? (name : String) : Value → Option Value
  | .table _ fields => fields.lookup name
  | _ => none

@[simp] theorem field?_table (name : String) (origin : Option Origin) (fields : Fields) :
    (table origin fields).field? name = fields.lookup name := rfl

@[simp] theorem field?_absent (name : String) : absent.field? name = none := rfl

/-- The value that is there for a setting. -/
def entry (root : Value) (k : Setting) : Option Value :=
  (root.field? k.home).bind (·.field? k.name)

def IsTable : Value → Prop
  | .table .. => True
  | _ => False

instance : DecidablePred IsTable
  | .table .. => .isTrue trivial
  | .scalar .. => .isFalse id
  | .list .. => .isFalse id

theorem IsTable.exists_fields {v : Value} (h : v.IsTable) :
    ∃ origin fields, v = .table origin fields := by
  cases v with
  | scalar => exact h.elim
  | list => exact h.elim
  | table origin fields => exact ⟨origin, fields, rfl⟩

end Value

/-- The value of the sections is a table, and so are the sections, as far as they are there. -/
structure Sectioned (root : Value) : Prop where
  whole : root.IsTable
  store : ∀ v, root.field? "store" = some v → v.IsTable
  results : ∀ v, root.field? "results" = some v → v.IsTable

theorem setting_table {α : Type} (origin : Option Origin) (fields : Fields) (index : Nat)
    (name : String) (decode : Decoder α) (default : α) :
    setting (.table origin fields) index name decode default =
      match fields.lookup name with
      | none => .ok default
      | some v => (decode v).mapError (Fault.under (.field name)) := by
  cases h : fields.lookup name with
  | none => simp [setting, settingAt, h]
  | some v => simp [setting, settingAt, h]

/-- A setting of a section that is a table is read by itself. -/
theorem mapError_setting (k : Setting) {root v : Value} (hv : v.IsTable)
    (h : root.field? k.home = some v) :
    (setting v k.place k.name k.read k.default).mapError (Fault.under (.field k.home)) =
      k.readGiven (root.entry k) := by
  obtain ⟨origin, fields, rfl⟩ := hv.exists_fields
  have hentry : root.entry k = fields.lookup k.name := by simp [Value.entry, h]
  rw [setting_table, hentry]
  cases fields.lookup k.name with
  | none => rfl
  | some v => exact mapError_mapError _ _ (k.read v)

/-- A setting of a section that is not there has its default. -/
theorem readGiven_of_no_section {k : Setting} {root : Value} (h : root.field? k.home = none) :
    k.readGiven (root.entry k) = .ok k.default := by
  simp [Value.entry, h, Setting.readGiven]

theorem inSection_of_isTable {α : Type} {v : Value} (h : v.IsTable) (need : Need)
    (decode : Decoder α) : inSection need decode v = decode v := by
  obtain ⟨origin, fields, rfl⟩ := h.exists_fields
  rfl

/-- A section that is a table or not there is read one setting at a time. -/
theorem setting_section {α : Type} {root : Value} (hroot : root.IsTable) {home : String}
    (hhome : ∀ v, root.field? home = some v → v.IsTable) (index : Nat) (need : Need)
    (decode : Decoder α) (default : α) {assemble : SettingReader → Except Fault α}
    (hdecode : ∀ v, decode v = assemble fun k => setting v k.place k.name k.read k.default)
    (hdefault : assemble (fun k => .ok k.default) = .ok default)
    (hmap : ∀ g one, (assemble one).mapError g = assemble fun k => (one k).mapError g)
    (hcongr : ∀ {one other : SettingReader},
      (∀ k : Setting, k.home = home → one k = other k) → assemble one = assemble other) :
    setting root index home (inSection need decode) default =
      assemble fun k => k.readGiven (root.entry k) := by
  obtain ⟨origin, fields, rfl⟩ := hroot.exists_fields
  rw [setting_table]
  cases hsection : fields.lookup home with
  | none =>
    rw [← hdefault]
    refine hcongr fun k hk => (readGiven_of_no_section ?_).symm
    rw [hk]
    exact hsection
  | some v =>
    have hv : v.IsTable := hhome v hsection
    simp only [inSection_of_isTable hv, hdecode, hmap]
    refine hcongr fun k hk => ?_
    rw [← hk]
    refine mapError_setting k hv ?_
    rw [hk]
    exact hsection

/-- Every setting is read by itself. -/
theorem settings_eq_assembled {root : Value} (h : Sectioned root) :
    settings root = assembled fun k => k.readGiven (root.entry k) := by
  have hstore := setting_section h.whole h.store 0 .storeSection storeSettings {}
    (fun _ => rfl) rfl (fun g _ => assembledStore_mapError g) assembledStore_congr
  have hresults := setting_section h.whole h.results 1 .resultsSection options {}
    (fun _ => rfl) rfl (fun g _ => assembledOptions_mapError g) assembledOptions_congr
  unfold assembled
  rw [← hstore, ← hresults]
  rfl

end JobResults.Config
