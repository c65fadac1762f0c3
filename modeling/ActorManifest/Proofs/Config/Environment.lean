import ActorManifest.Config.Loading
import ActorManifest.Proofs.EnvFile.Variables
import ActorManifest.Proofs.Host.FileTree

/-!
# The variables that loading leaves

A file of variables gives values to names that have none.  So whatever the process has set is
still set once the configuration is loaded, in particular the directory of the configuration.
-/

namespace ActorManifest

theorem Text.mem_of_mem_splitAll
    {separator c : CodePoint} {t piece : Text} (hpiece : piece ∈ Text.splitAll separator t)
    (hc : c ∈ piece) : c ∈ t := by
  induction t generalizing piece with
  | nil =>
      rw [splitAll, List.mem_singleton] at hpiece
      rw [hpiece] at hc
      exact hc
  | cons first rest ih =>
      rw [splitAll] at hpiece
      cases hsplit : splitAll separator rest with
      | nil =>
          rw [hsplit, List.mem_singleton] at hpiece
          rw [hpiece, List.mem_singleton] at hc
          rw [hc]
          exact List.mem_cons_self
      | cons found more =>
          rw [hsplit] at hpiece ih
          dsimp only at hpiece
          split at hpiece
          · rcases List.mem_cons.mp hpiece with rfl | hpiece
            · cases hc
            · exact List.mem_cons_of_mem _ (ih hpiece hc)
          · rcases List.mem_cons.mp hpiece with rfl | hpiece
            · rcases List.mem_cons.mp hc with rfl | hc
              · exact List.mem_cons_self
              · exact List.mem_cons_of_mem _ (ih List.mem_cons_self hc)
            · exact List.mem_cons_of_mem _ (ih (List.mem_cons_of_mem _ hpiece) hc)

/-- A text without a tilde is a path that no home directory replaces. -/
theorem Host.expandHome_ofText (host : Host) {t : Text} (htilde : Path.tilde ∉ t) :
    host.expandHome (Path.ofText t) = .ok (Path.ofText t) := by
  unfold expandHome Path.expandHome
  split
  · rename_i c user names hstart hnames
    have hmem : c :: user ∈ Path.namesOf t := by
      change c :: user ∈ (Path.ofText t).names
      rw [hnames]
      exact List.mem_cons_self
    rw [if_neg]
    rintro rfl
    exact htilde (Text.mem_of_mem_splitAll (List.mem_filter.mp hmem).1 List.mem_cons_self)
  · rfl

/-! ## Values that stay -/

/-- Whatever variables have a value in the first process have the same value in the second. -/
def Variables.Keeps (environment later : Variables) : Prop :=
  ∀ name value, environment.get? name = some value → later.get? name = some value

theorem Variables.Keeps.refl (environment : Variables) : environment.Keeps environment :=
  fun _ _ hget => hget

/-- Where the own home directory is set, new variables do not change what a tilde stands for. -/
theorem Path.expandHome_of_keeps
    {users : Users} {environment later : Variables} {own : Text} (hkeeps : environment.Keeps later)
    (hown : environment.get? "HOME" = some own) (p : Path) :
    p.expandHome users later = p.expandHome users environment := by
  have hhome : ∀ user, homeOf users later user = homeOf users environment user := by
    intro user
    cases user with
    | nil => rw [homeOf, homeOf, hown, hkeeps _ _ hown]
    | cons c rest => rfl
  unfold expandHome
  simp only [hhome]

namespace Config

variable {host : Host} {p : Path} {config : Config} {later : Variables}

/-- A variable that is set is filled unless its value is empty. -/
theorem filled?_of_get?
    {environment : Variables} {name value : Text} (hget : environment.get? name = some value) :
    filled? environment name = if value = [] then none else some value := by
  rw [filled?, hget]
  by_cases hempty : value = []
  · rw [hempty]
    rfl
  · simp [Option.filter, hempty]

theorem filled?_eq_some_iff {environment : Variables} {name value : Text} :
    filled? environment name = some value ↔ environment.get? name = some value ∧ value ≠ [] := by
  simp [filled?, Option.filter_eq_some_iff]

theorem filled?_of_keeps
    {environment : Variables} {name value : Text} (hkeeps : environment.Keeps later)
    (hfilled : filled? environment name = some value) : filled? later name = some value := by
  obtain ⟨hget, hvalue⟩ := filled?_eq_some_iff.mp hfilled
  exact filled?_eq_some_iff.mpr ⟨hkeeps name value hget, hvalue⟩

/-! ## Files of variables -/

/-- The file at a path gives a value to a name, and files of variables are not turned off. -/
def FileGives (host : Host) (p : Path) (name value : Text) : Prop :=
  envFilesDisabled host.environment = false ∧ ∃ t, host.files.readText p = .ok t ∧
    EnvFile.Gives host.environment (EnvFile.bindings (EnvFile.statements t)) name value

/-- A setting names a file that gives a value to a name. -/
def SettingGives (host : Host) (setting : Document) (name value : Text) : Prop :=
  ∃ t p, setting = .text t ∧ t ≠ [] ∧ host.expandHome (Path.ofText t) = .ok p ∧
    FileGives host p name value

theorem isFile_of_fileGives {name value : Text} (hgives : FileGives host p name value) :
    host.files.isFile p = true := by
  obtain ⟨-, t, htext, -⟩ := hgives
  exact FileTree.isFile_of_readText htext

/-- A variable has the value that it had, or else the one that the file gives to it. -/
theorem get?_of_extend
    (hextend : (extend host p).outcome = .ok later) (name value : Text) :
    later.get? name = some value ↔
      host.environment.get? name = some value ∨
        host.environment.get? name = none ∧ FileGives host p name value := by
  unfold extend at hextend
  split at hextend
  · rename_i hoff
    cases hextend
    have hnone : ¬FileGives host p name value := by
      intro hgives
      rw [hgives.1, isFile_of_fileGives hgives] at hoff
      cases hoff
    simp [hnone]
  · rename_i hon
    have henabled : envFilesDisabled host.environment = false := by
      simp_all
    cases htext : host.files.readText p with
    | error fault =>
        rw [htext] at hextend
        cases hextend
    | ok t =>
        rw [htext] at hextend
        dsimp only at hextend
        cases hgiven : EnvFile.extend? host.environment (EnvFile.statements t) with
        | none =>
            rw [hgiven] at hextend
            cases hextend
        | some given =>
            rw [hgiven] at hextend
            cases hextend
            rw [EnvFile.get?_of_extend? hgiven]
            simp [FileGives, henabled, htext]

/-- A variable has the value that it had, or else the one that the file of the setting gives to
it. -/
theorem get?_of_applyEnvFile
    {setting : Document} (happly : (applyEnvFile host setting).outcome = .ok later)
    (name value : Text) :
    later.get? name = some value ↔
      host.environment.get? name = some value ∨
        host.environment.get? name = none ∧ SettingGives host setting name value := by
  unfold applyEnvFile at happly
  split at happly
  · rename_i hempty
    cases happly
    have hnone : ¬SettingGives host setting name value := by
      rintro ⟨t, p, rfl, ht, -⟩
      exact ht (List.isEmpty_iff.mp hempty)
    simp [hnone]
  · rename_i hfilled
    split at happly
    · rename_i t
      cases hexpand : host.expandHome (Path.ofText t) with
      | error fault =>
          rw [hexpand] at happly
          cases happly
      | ok p =>
          have ht : t ≠ [] := fun ht => hfilled (List.isEmpty_iff.mpr ht)
          have hgives : SettingGives host (.text t) name value ↔ FileGives host p name value := by
            simp [SettingGives, ht, hexpand]
          rw [hexpand] at happly
          dsimp only at happly
          rw [hgives]
          split at happly
          · cases happly
          · rename_i hheld
            cases happly
            have hnone : ¬FileGives host p name value := by
              intro hfile
              obtain ⟨content, hentry⟩ := FileTree.isFile_eq_true_iff.mp (isFile_of_fileGives hfile)
              rw [FileTree.holds_eq_true_iff.mpr ⟨_, hentry⟩] at hheld
              cases hheld
            simp [hnone]
          · exact get?_of_extend happly name value
    · cases happly

theorem keeps_applyEnvFile
    {setting : Document} (happly : (applyEnvFile host setting).outcome = .ok later) :
    host.environment.Keeps later :=
  fun name value hget => (get?_of_applyEnvFile happly name value).mpr (.inl hget)

/-! ## Loading in steps -/

/-- The settings of a file are loaded in three steps: they are read, their file of variables is
applied, and the variables that are then set override the level. -/
theorem loadFile_cases [Machine] (host : Host) (p : Path) :
    (∃ failure, readFile host.files p = .error failure ∧
      (loadFile host p).outcome = .error failure) ∨
    (∃ found cause, readFile host.files p = .ok found ∧
      (applyEnvFile host found.envFile).outcome = .error cause ∧
      (loadFile host p).outcome = .error (.broken cause)) ∨
    ∃ found later, readFile host.files p = .ok found ∧
      (applyEnvFile host found.envFile).outcome = .ok later ∧
      (loadFile host p).outcome = (override later found).map fun config => (config, later) := by
  unfold loadFile
  cases readFile host.files p with
  | error failure => exact .inl ⟨failure, rfl, rfl⟩
  | ok found =>
      dsimp only
      cases happly : (applyEnvFile host found.envFile).outcome with
      | error cause => exact .inr (.inl ⟨found, cause, rfl, happly, rfl⟩)
      | ok later =>
          refine .inr (.inr ⟨found, later, rfl, happly, ?_⟩)
          simp only [Except.mapError, bind, Except.bind]
          cases override later found <;> rfl

theorem loadFile_eq_ok_iff [Machine] :
    (loadFile host p).outcome = .ok (config, later) ↔
      ∃ found, readFile host.files p = .ok found ∧
        (applyEnvFile host found.envFile).outcome = .ok later ∧
        override later found = .ok config := by
  rcases loadFile_cases host p with ⟨failure, hread, hload⟩ | ⟨found, cause, hread, happly, hload⟩ |
    ⟨found, environment, hread, happly, hload⟩
  · simp [hread, hload]
  · simp [hread, hload, happly]
  · simp only [hread, hload, map_eq_ok_iff, Prod.mk.injEq, Except.ok.injEq, exists_eq_left', happly]
    constructor
    · rintro ⟨overridden, hoverride, rfl, rfl⟩
      exact ⟨rfl, hoverride⟩
    · rintro ⟨rfl, hoverride⟩
      exact ⟨config, hoverride, rfl, rfl⟩

theorem override_of_filled?_eq_none (hlevel : filled? later levelVariable = none) :
    override later config = .ok config := by
  rw [override, hlevel]

theorem applyEnvFile_of_isEmpty {setting : Document} (hempty : setting.isEmpty = true) :
    (applyEnvFile host setting).outcome = .ok host.environment := by
  unfold applyEnvFile
  rw [if_pos hempty]

/-- Where the settings name no file of variables and no variable overrides the level, they are
loaded as they are read. -/
theorem outcome_loadFile_of_plain [Machine]
    (hlevel : filled? host.environment levelVariable = none)
    (hplain : ∀ found, readFile host.files p = .ok found → found.envFile.isEmpty = true) :
    (loadFile host p).outcome =
      (readFile host.files p).map fun found => (found, host.environment) := by
  rcases loadFile_cases host p with ⟨failure, hread, hload⟩ | ⟨found, cause, hread, happly, -⟩ |
    ⟨found, environment, hread, happly, hload⟩
  · simp only [hload, hread, Except.map]
  · rw [applyEnvFile_of_isEmpty (hplain found hread)] at happly
    cases happly
  · rw [applyEnvFile_of_isEmpty (hplain found hread)] at happly
    cases happly
    simp only [hload, hread, override_of_filled?_eq_none hlevel, Except.map]

theorem load_of_path [Machine] (hpath : path host = .ok p) : load host = loadFile host p := by
  rw [load, hpath]

/-- Loading fails for want of a home directory, or it loads the file in the directory. -/
theorem load_cases [Machine] (host : Host) :
    (∃ fault, (load host).outcome = .error (.broken (.home fault))) ∨
      ∃ p, path host = .ok p ∧ load host = loadFile host p := by
  cases hpath : path host with
  | error fault => exact .inl ⟨fault, by rw [load, hpath]⟩
  | ok p => exact .inr ⟨p, rfl, load_of_path hpath⟩

theorem exists_loadFile_of_load [Machine] {outcome : Config × Variables}
    (hload : (load host).outcome = .ok outcome) :
    ∃ p, path host = .ok p ∧ (loadFile host p).outcome = .ok outcome := by
  rcases load_cases host with ⟨fault, hfault⟩ | ⟨p, hpath, hfile⟩
  · rw [hfault] at hload
    cases hload
  · exact ⟨p, hpath, hfile ▸ hload⟩

/-- Loading the configuration changes no variable that is set. -/
theorem keeps_load [Machine] (hload : (load host).outcome = .ok (config, later)) :
    host.environment.Keeps later := by
  obtain ⟨p, -, hfile⟩ := exists_loadFile_of_load hload
  obtain ⟨found, -, happly, -⟩ := loadFile_eq_ok_iff.mp hfile
  exact keeps_applyEnvFile happly

/-! ## The directory of the configuration -/

/-- The variable of the directory names it where its value is a path without a tilde. -/
theorem home_eq_ok
    {host : Host} {t : Text} (hvariable : host.environment.get? homeVariable = some t)
    (hfilled : t ≠ []) (htilde : Path.tilde ∉ t) : home host = .ok (Path.ofText t) := by
  have hfound : filled? host.environment homeVariable = some t :=
    filled?_eq_some_iff.mpr ⟨hvariable, hfilled⟩
  rw [home, hfound]
  exact host.expandHome_ofText htilde

/-- New variables do not move the directory, unless they say what a tilde in its name stands for. -/
theorem home_of_keeps
    {host : Host} {t : Text} {later : Variables} (files : FileTree)
    (hvariable : host.environment.get? homeVariable = some t) (hfilled : t ≠ [])
    (htilde : Path.tilde ∉ t ∨ ∃ own, host.environment.get? "HOME" = some own)
    (hkeeps : host.environment.Keeps later) : home ⟨files, later, host.users⟩ = home host := by
  rcases htilde with htilde | ⟨own, hown⟩
  · rw [home_eq_ok hvariable hfilled htilde]
    exact home_eq_ok (hkeeps _ _ hvariable) hfilled htilde
  · have hfound : filled? host.environment homeVariable = some t :=
      filled?_eq_some_iff.mpr ⟨hvariable, hfilled⟩
    rw [home, home, hfound, filled?_of_keeps hkeeps hfound]
    exact Path.expandHome_of_keeps hkeeps hown _

end Config
end ActorManifest
