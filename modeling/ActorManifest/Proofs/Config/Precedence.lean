import ActorManifest.Proofs.Config.Environment
import ActorManifest.Proofs.Config.Settings
import ActorManifest.Proofs.Yaml.Loading

/-!
# Which source of a setting counts

The level of notices may be given by the process, by the file of variables, and by the file of the
configuration.  The process comes before the file of variables even with an empty value, and
either of them before the configuration unless the value is empty.  The other settings have no
source but the configuration.
-/

namespace ActorManifest
namespace Config

variable {host : Host} {p : Path} {config found : Config} {later : Variables} {v : Text}

/-- The filled variable of the level names it, or it is found fault with. -/
theorem override_cases (hlevel : filled? later levelVariable = some v) (found : Config) :
    (∃ level : LogLevel, Text.ofString level.name = v.upper ∧
      override later found = .ok { found with logLevel := level }) ∨
    (∀ level : LogLevel, Text.ofString level.name ≠ v.upper) ∧
      override later found = .error (.invalid (.badOverride v)) := by
  cases hv : levelOf v with
  | ok level =>
      refine .inl ⟨level, levelOf_eq_ok_iff.mp hv, ?_⟩
      simp only [override, hlevel, hv]
  | error upper =>
      refine .inr ⟨fun level hname => ?_, by simp only [override, hlevel, hv]⟩
      rw [levelOf_eq_ok_iff.mpr hname] at hv
      cases hv

/-- Loading breaks off, or the variable of the level names none, or loading fails as reading the
file does. -/
theorem failure_of_load [Machine]
    {failure : ConfigFailure} (hload : (load host).outcome = .error failure) :
    (∃ cause, failure = .broken cause) ∨
      (∃ v later, host.environment.Keeps later ∧ filled? later levelVariable = some v ∧
        (∀ level : LogLevel, Text.ofString level.name ≠ v.upper) ∧
        failure = .invalid (.badOverride v)) ∨
      ∃ p, path host = .ok p ∧ readFile host.files p = .error failure := by
  rcases load_cases host with ⟨fault, hfault⟩ | ⟨p, hpath, hfile⟩
  · rw [hfault] at hload
    cases hload
    exact .inl ⟨_, rfl⟩
  · rw [hfile] at hload
    rcases loadFile_cases host p with ⟨other, hread, hother⟩ | ⟨found, cause, -, -, hcause⟩ |
      ⟨found, later, -, happly, hoverridden⟩
    · rw [hother] at hload
      cases hload
      exact .inr (.inr ⟨p, hpath, hread⟩)
    · rw [hcause] at hload
      cases hload
      exact .inl ⟨cause, rfl⟩
    · rw [hoverridden] at hload
      cases hlevel : filled? later levelVariable with
      | none =>
          rw [override_of_filled?_eq_none hlevel] at hload
          cases hload
      | some v =>
          rcases override_cases hlevel found with ⟨level, -, hok⟩ | ⟨hnone, herror⟩
          · rw [hok] at hload
            cases hload
          · rw [herror] at hload
            cases hload
            exact .inr (.inl ⟨v, later, keeps_applyEnvFile happly, hlevel, hnone, rfl⟩)

theorem readFile_eq_ok_iff [Machine] {files : FileTree} :
    readFile files p = .ok found ↔
      ∃ t entries, files.readText p = .ok t ∧ Holds (·.isEmpty = true) t entries ∧
        found.IsGivenBy entries := by
  constructor
  · intro hread
    rw [readFile, bind_eq_ok_iff] at hread
    obtain ⟨held, -, hread⟩ := hread
    cases held with
    | false => cases hread
    | true =>
        rw [if_pos rfl, bind_eq_ok_iff] at hread
        obtain ⟨t, htext, hsettings⟩ := hread
        obtain ⟨entries, hholds, hgiven⟩ := ofText_eq_ok_iff.mp hsettings
        exact ⟨t, entries, mapError_eq_ok_iff.mp htext, hholds, hgiven⟩
  · rintro ⟨t, entries, htext, hholds, hgiven⟩
    obtain ⟨content, hentry⟩ := FileTree.isFile_eq_true_iff.mp (FileTree.isFile_of_readText htext)
    have hheld : files.holds p = .ok true := FileTree.holds_eq_true_iff.mpr ⟨_, hentry⟩
    rw [readFile, hheld, htext]
    exact ofText_eq_ok_iff.mpr ⟨entries, hholds, hgiven⟩

/-- Overriding leaves all settings but the level, which is named by the variable if it is filled,
and else by the text that named it before. -/
theorem settings_of_override (hoverride : override later found = .ok config) :
    config.defaultPath = found.defaultPath ∧ config.space = found.space ∧
      config.envFile = found.envFile ∧
      ∀ level, Text.ofString found.logLevel.name = level.upper →
        Text.ofString config.logLevel.name = ((filled? later levelVariable).getD level).upper := by
  cases hfilled : filled? later levelVariable with
  | none =>
      rw [override_of_filled?_eq_none hfilled] at hoverride
      cases hoverride
      exact ⟨rfl, rfl, rfl, fun _ hlevel => hlevel⟩
  | some v =>
      rcases override_cases hfilled found with ⟨level, hlevel, hok⟩ | ⟨-, herror⟩
      · rw [hok] at hoverride
        cases hoverride
        exact ⟨rfl, rfl, rfl, fun _ _ => hlevel⟩
      · rw [herror] at hoverride
        cases hoverride

/-- The variables after loading are those of the process, and for names without a value those that
the file of variables gives.  The filled variable of the level then decides about the level, and
else the configuration; it alone decides about all else. -/
theorem settings_of_loadFile [Machine] (hload : (loadFile host p).outcome = .ok (config, later)) :
    (path host = .ok p → load host = loadFile host p) ∧
    (∀ name value, host.environment.get? name = some value → later.get? name = some value) ∧
    (∀ name value, host.environment.get? name = none →
      (later.get? name = some value ↔ SettingGives host config.envFile name value)) ∧
    config.logLevel.name ∈ ["DEBUG", "INFO", "WARNING", "ERROR", "CRITICAL"] ∧
    ∃ t entries level, host.files.readText p = .ok t ∧ Holds (·.isEmpty = true) t entries ∧
      config.defaultPath = (lookup? "default_path" entries).getD standard.defaultPath ∧
      config.space = (lookup? "namespace" entries).getD standard.space ∧
      config.envFile = (lookup? "env_file" entries).getD standard.envFile ∧
      ((lookup? "log_level" entries).getD (.text "WARNING")).toText = .ok level ∧
      Text.ofString config.logLevel.name = ((filled? later levelVariable).getD level).upper ∧
      (∀ value : Text, host.environment.get? levelVariable = some value →
        Text.ofString config.logLevel.name = (if value = [] then level else value : Text).upper) ∧
      (∀ value : Text, host.environment.get? levelVariable = none → value ≠ [] →
        SettingGives host config.envFile levelVariable value →
        Text.ofString config.logLevel.name = value.upper) := by
  obtain ⟨found, hread, happly, hoverride⟩ := loadFile_eq_ok_iff.mp hload
  obtain ⟨t, entries, htext, hholds, hgiven⟩ := readFile_eq_ok_iff.mp hread
  obtain ⟨level, hlevel, hname⟩ := hgiven.logLevel
  obtain ⟨hpath, hspace, hfile, hoverridden⟩ := settings_of_override hoverride
  have hvariables := get?_of_applyEnvFile happly
  rw [← hfile] at hvariables
  have hnew : ∀ name value, host.environment.get? name = none →
      (later.get? name = some value ↔ SettingGives host config.envFile name value) := by
    intro name value hnone
    simp [hvariables, hnone]
  have hkept : ∀ name value, host.environment.get? name = some value →
      later.get? name = some value :=
    fun name value hget => (hvariables name value).mpr (.inl hget)
  refine ⟨load_of_path, hkept, hnew, ?_, t, entries, level, htext, hholds,
    hpath.trans hgiven.defaultPath, hspace.trans hgiven.space, hfile.trans hgiven.envFile, hlevel,
    hoverridden level hname, ?_, ?_⟩
  · cases config.logLevel <;> decide
  · intro value hget
    rw [hoverridden level hname, filled?_of_get? (hkept _ _ hget)]
    split <;> rfl
  · intro value hnone hfilled hgives
    have hset := filled?_eq_some_iff.mpr ⟨(hnew _ _ hnone).mpr hgives, hfilled⟩
    rw [hoverridden level hname, hset]
    rfl

theorem settings_of_loadFile_debug :
    let files : FileTree :=
      ⟨[([Text.ofString "c.yaml"], .file "env_file: e.env\n".toUTF8.toList),
        ([Text.ofString "e.env"], .file "AMP_LOG_LEVEL=debug\n".toUTF8.toList)], []⟩
    let host : Host := ⟨files, [], ⟨"/", []⟩⟩
    ∃ config later, (loadFile host (.ofText "c.yaml")).outcome = .ok (config, later) ∧
      SettingGives host config.envFile levelVariable "debug" ∧
      Text.ofString config.logLevel.name = ("debug" : Text).upper := by
  intro files host
  have hyaml : Yaml.read "env_file: e.env\n" = .ok (.mapping [(.text "env_file", .text "e.env")]) :=
    Yaml.read_of_tokens
      [.blockMappingStart, .key, .scalar true "env_file", .value, .scalar true "e.env", .blockEnd]
      (.mapping none .map [(.scalar none .str "env_file", .scalar none .str "e.env")])
      (by decide +kernel) (by decide +kernel) rfl rfl
  have htext : files.readText (.ofText "c.yaml") = .ok "env_file: e.env\n" := by
    decide +kernel
  have hread : readFile files (.ofText "c.yaml") =
      .ok { standard with envFile := .text "e.env", spaceFilled := rfl } :=
    readFile_eq_ok_iff.mpr ⟨_, _, htext, ⟨_, hyaml, .inr rfl⟩, ofMapping_eq_ok_iff.mp rfl⟩
  have happly : (applyEnvFile host (.text "e.env")).outcome = .ok [(levelVariable, "debug")] := by
    decide +kernel
  let config : Config :=
    { standard with logLevel := .debug, envFile := .text "e.env", spaceFilled := rfl }
  have hload : (loadFile host (.ofText "c.yaml")).outcome =
      .ok (config, [(levelVariable, "debug")]) :=
    loadFile_eq_ok_iff.mpr ⟨_, hread, happly, rfl⟩
  obtain ⟨-, -, hnew, -, t, entries, level, -, -, -, -, -, -, -, -, hlevel⟩ :=
    settings_of_loadFile hload
  have hgives := (hnew levelVariable "debug" rfl).mp rfl
  exact ⟨_, _, hload, hgives, hlevel "debug" rfl (by decide) hgives⟩

end Config
end ActorManifest
