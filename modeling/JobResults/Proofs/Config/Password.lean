import Mathlib.Data.List.Basic
import JobResults.Config.Load

/-!
  # The password and all other settings

  Two variables of the environment give the password, and nothing else does: not the file, not a
  variable that looks like a setting.  The other way round these two variables give nothing but the
  password.  What is loaded is what would be loaded without a password, with the password put in at
  the end (`loadFrom_eq`), and neither the layer of the environment nor the check of the settings
  can tell one password from another (`environmentLayer_others`, `checked_withPassword`).
-/

namespace JobResults.Config

/-! ### Variables -/

/-- Whether a variable is one of the two that give the password. -/
def givesPassword (name : String) : Bool :=
  name = "RESULTBOX_REDIS_PASSWORD" || name = "REDIS_PASSWORD"

/-- The variables that do not give the password. -/
def Environment.others (env : Environment) : Environment := env.filter fun v => !givesPassword v.1

/-- A variable that gives the password sets nothing. -/
theorem settingOf?_of_givesPassword {name : String} (h : givesPassword name = true) :
    settingOf? name = none := by
  simp only [givesPassword, Bool.or_eq_true, decide_eq_true_eq] at h
  rcases h with rfl | rfl
  · decide
  · decide

theorem environmentLayer_others (env : Environment) :
    environmentLayer env.others = environmentLayer env := by
  simp only [environmentLayer, Environment.others, List.filterMap_filter]
  refine List.filterMap_congr fun v _ => ?_
  cases h : givesPassword v.1 with
  | false => simp
  | true => simp [settingOf?_of_givesPassword h]

/-- Variables with other names are still found where some are taken out. -/
theorem lookup_filter (keep : String → Bool) (env : Environment) {name : String}
    (h : keep name = true) :
    List.lookup name (env.filter fun v => keep v.1) = List.lookup name env := by
  induction env with
  | nil => rfl
  | cons v env ih =>
    obtain ⟨other, value⟩ := v
    by_cases hname : name = other
    · subst hname
      simp [h]
    · by_cases hother : keep other = true
      · simp [List.lookup_cons, hother, beq_false_of_ne hname, ih]
      · simp [List.lookup_cons, hother, beq_false_of_ne hname, ih]

theorem lookup_others (env : Environment) {name : String} (h : givesPassword name = false) :
    env.others.lookup name = env.lookup name :=
  lookup_filter (fun name => !givesPassword name) env (by simp [h])

/-! ### Settings -/

theorem ok_of_toOption {α ε : Type} {x : Except ε α} {a : α} (h : x.toOption = some a) :
    x = .ok a := by
  cases x with
  | error e => simp [Except.toOption] at h
  | ok b => simpa [Except.toOption] using h

def Settings.withPassword (s : Settings) (password : Option String) : Settings :=
  { s with store := { s.store with password := password } }

/-- No complaint is about the password. -/
theorem checked_withPassword (s : Settings) (p : Option String) :
    checked (s.withPassword p) = (checked s).map (·.withPassword p) := by
  have hcomplaint : complaint (s.withPassword p) = complaint s := rfl
  rw [checked, checked, hcomplaint]
  cases complaint s with
  | none => rfl
  | some reason => rfl

/-- The settings of a file and an environment before they are given the password. -/
def loadOpen (files : Files) (env : Environment) (path : String) : Except LoadError Settings := do
  let file ← fileLayer files path
  let s ← (settings (merged file (environmentLayer env))).mapError .fault
  checked s

theorem loadFrom_eq (files : Files) (env : Environment) (path : String) :
    loadFrom files env path = (loadOpen files env path).map (·.withPassword (password env)) := by
  unfold loadFrom loadOpen resolve
  cases fileLayer files path with
  | error e => rfl
  | ok file =>
    cases hsettings : settings (merged file (environmentLayer env)) with
    | error e => simp [bind, Except.bind, Except.mapError, Except.map, hsettings]
    | ok s =>
      simp only [bind, Except.bind, pure, Except.pure, Except.mapError, hsettings]
      exact checked_withPassword s (password env)

/-- Settings are loaded with the password of their environment. -/
theorem password_of_loadFrom {files : Files} {env : Environment} {path : String} {s : Settings}
    (h : loadFrom files env path = .ok s) : s.store.password = password env := by
  rw [loadFrom_eq] at h
  cases hopen : loadOpen files env path with
  | error e => simp [hopen, Except.map] at h
  | ok s₀ =>
    simp only [hopen, Except.map, Except.ok.injEq] at h
    rw [← h]
    rfl

/-- Apart from the password, loading depends on the other variables only. -/
theorem loadFrom_congr {files files' : Files} {env env' : Environment} {path : String}
    (hfile : fileLayer files' path = fileLayer files path) (henv : env'.others = env.others) :
    (loadFrom files' env' path).map (·.withPassword none)
      = (loadFrom files env path).map (·.withPassword none) := by
  have hlayer : environmentLayer env' = environmentLayer env := by
    rw [← environmentLayer_others env', henv, environmentLayer_others]
  have hopen : loadOpen files' env' path = loadOpen files env path := by
    simp only [loadOpen, hfile, hlayer]
  simp only [loadFrom_eq, hopen]
  cases loadOpen files env path with
  | error e => rfl
  | ok s => rfl

/-- The password is that of the first of two variables that is set, whatever the file and the other
    variables say, and these two variables decide nothing else: neither another setting nor whether
    there are settings at all, nor why not.  Where no path is given the variables are those of the
    environment completed from the file `.env`. -/
theorem password_isolated (files : Files) (env : Environment) :
    (∀ path s, loadFrom files env path = .ok s →
      s.store.password = match env.lookup "RESULTBOX_REDIS_PASSWORD" with
        | some p => some p
        | none => env.lookup "REDIS_PASSWORD") ∧
    (∀ s, load files env = .ok s →
      s.store.password = match (completed files env).lookup "RESULTBOX_REDIS_PASSWORD" with
        | some p => some p
        | none => (completed files env).lookup "REDIS_PASSWORD") ∧
    (∀ env' : Environment, env'.others = env.others → ∀ path,
      (loadFrom files env' path).map (·.withPassword none)
        = (loadFrom files env path).map (·.withPassword none)) ∧
    ∀ files' env', (completed files' env').others = (completed files env).others →
      fileLayer files' (pathIn (completed files env)) =
        fileLayer files (pathIn (completed files env)) →
      (load files' env').map (·.withPassword none)
        = (load files env).map (·.withPassword none) := by
  have hexact : ∀ (env : Environment) path s, loadFrom files env path = .ok s →
      s.store.password = match env.lookup "RESULTBOX_REDIS_PASSWORD" with
        | some p => some p
        | none => env.lookup "REDIS_PASSWORD" := by
    intro env path s h
    rw [password_of_loadFrom h, password]
    cases env.lookup "RESULTBOX_REDIS_PASSWORD" with
    | none => rfl
    | some p => rfl
  refine ⟨hexact env, fun s h => hexact _ _ s h, fun env' henv path => loadFrom_congr rfl henv, ?_⟩
  intro files' env' henv hfile
  have hpath : pathIn (completed files' env') = pathIn (completed files env) := by
    have hname : givesPassword pathVariable = false := by decide
    rw [pathIn, pathIn, ← lookup_others _ hname, henv, lookup_others _ hname]
  rw [load, load, hpath]
  exact loadFrom_congr hfile henv

/-- The file and a variable offer a password to the section, and the first of the two variables is
    set to nothing: the password is empty.  The other variable is asked when the first one is gone,
    also where the file `.env` sets it. -/
theorem password_isolated_empty :
    let file : List String × Entry :=
      (["c.toml"], .file (Bytes.ofString "[store]\npassword = 'file'\ndb = 3\n"))
    let offer : String × String := ("RESULTBOX__STORE__PASSWORD", "offer")
    let s : Settings := { store := { database := 3 } }
    (∃ s', loadFrom ⟨[file]⟩
          [offer, ("RESULTBOX_REDIS_PASSWORD", ""), ("REDIS_PASSWORD", "second")] "c.toml"
            = .ok s' ∧
        s'.store.password = some "" ∧ s'.withPassword none = s) ∧
      (loadFrom ⟨[file]⟩ [offer] "c.toml").map (·.withPassword none) = .ok s ∧
      ∃ s', load ⟨[file, ([".env"], .file (Bytes.ofString "REDIS_PASSWORD=dot\n"))]⟩
          [("RESULTBOX_CONFIG", "c.toml"), offer] = .ok s' ∧
        s'.store.password = some "dot" ∧ s'.withPassword none = s := by
  intro file offer s
  let env : Environment :=
    [offer, ("RESULTBOX_REDIS_PASSWORD", ""), ("REDIS_PASSWORD", "second")]
  let dotted : Files := ⟨[file, ([".env"], .file (Bytes.ofString "REDIS_PASSWORD=dot\n"))]⟩
  let named : Environment := [("RESULTBOX_CONFIG", "c.toml"), offer]
  obtain ⟨hexact, -, hothers, -⟩ := password_isolated ⟨[file]⟩ env
  obtain ⟨-, hload, -, hloads⟩ := password_isolated dotted named
  have hfirst : loadFrom ⟨[file]⟩ env "c.toml" = .ok (s.withPassword (some "")) :=
    ok_of_toOption (by decide +kernel)
  have hplain : load ⟨[file]⟩ named = .ok s := ok_of_toOption (by decide +kernel)
  have hsource : Source.find? ⟨[file]⟩ "c.toml" = Source.find? dotted "c.toml" := by decide +kernel
  have hfile : fileLayer ⟨[file]⟩ "c.toml" = fileLayer dotted "c.toml" := by
    rw [fileLayer, hsource, fileLayer]
  refine ⟨⟨_, hfirst, (hexact _ _ hfirst).trans (by decide), rfl⟩,
    (hothers [offer] (by decide) "c.toml").trans (by rw [hfirst]; rfl), ?_⟩
  have hpath : pathIn (completed dotted named) = "c.toml" := by decide +kernel
  have hsame : (load ⟨[file]⟩ named).map (·.withPassword none)
      = (load dotted named).map (·.withPassword none) :=
    hloads ⟨[file]⟩ named (by decide +kernel) (by rw [hpath, hfile])
  cases hdotted : load dotted named with
  | error e => simp [hplain, hdotted, Except.map] at hsame
  | ok s' =>
    refine ⟨s', rfl, ?_, ?_⟩
    · rw [hload s' hdotted]
      decide +kernel
    · simp only [hplain, hdotted, Except.map, Except.ok.injEq] at hsame
      exact hsame.symm

end JobResults.Config
