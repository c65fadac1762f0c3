import ActorManifest.Proofs.Command.Run
import ActorManifest.Proofs.Config.Content
import ActorManifest.Proofs.Config.Precedence

/-!
# The level of a run

A filled variable of the level decides about the level of every run whose configuration is there:
the run fails with a complaint, or it is at that level.  Where there is no configuration, the run
is at the standard level, whatever the variable says.
-/

namespace ActorManifest
namespace Command

variable {host : Host} {arguments rest : List Text} {verbose : Bool} {name : Name} {v : Text}

/-- The run heeds the level that the variable names: it does what the command does at that level,
or it complains, about the variable if that names no level, or else about the configuration. -/
inductive HeedsLevel [Machine]
    (host : Host) (v : Text) (verbose : Bool) (name : Name) (rest : List Text) :
    Report → Prop
  | performed {config : Config} {later : Variables} {earlier : List Write}
      (hkeeps : host.environment.Keeps later)
      (hlevel : Text.ofString config.logLevel.name = v.upper) :
      HeedsLevel host v verbose name rest
        ((perform { host with environment := later } config verbose name rest).after earlier)
  | badLevel {earlier : List Write}
      (hlevel : ∀ level : LogLevel, Text.ofString level.name ≠ v.upper) :
      HeedsLevel host v verbose name rest
        ((failing host.files
          (Text.concat ["✗ Invalid config: ", (ConfigFault.badOverride v).message])).after earlier)
  | badFile {p : Path} {fault : ConfigFault} {earlier : List Write}
      (hpath : Config.path host = .ok p)
      (hread : Config.readFile host.files p = .error (.invalid fault)) :
      HeedsLevel host v verbose name rest
        ((failing host.files (Text.concat ["✗ Invalid config: ", fault.message])).after earlier)

/-- Settings that are loaded have the level that the filled variable names. -/
theorem level_of_load [Machine]
    (hlevel : Config.filled? host.environment Config.levelVariable = some v) {config : Config}
    {later : Variables} (hload : (Config.load host).outcome = .ok (config, later)) :
    Text.ofString config.logLevel.name = v.upper := by
  obtain ⟨p, -, hfile⟩ := Config.exists_loadFile_of_load hload
  obtain ⟨found, -, happly, hoverride⟩ := Config.loadFile_eq_ok_iff.mp hfile
  have hlater := Config.filled?_of_keeps (Config.keeps_applyEnvFile happly) hlevel
  rcases Config.override_cases hlater found with ⟨level, hname, hok⟩ | ⟨-, herror⟩
  · rw [hok] at hoverride
    cases hoverride
    exact hname
  · rw [herror] at hoverride
    cases hoverride

/-- Where the configuration is there and reading it does not break off, a run heeds the level that
the variable names.  Where there is none, the run is at the standard level. -/
theorem heedsLevel_of_run [Machine]
    (hinvocation : invocation arguments = .command verbose name rest)
    (hlevel : Config.filled? host.environment Config.levelVariable = some v) :
    (HeedsLevel host v verbose name rest (run host arguments) ∨
      (∃ p earlier, Config.path host = .ok p ∧ host.files.holds p = .ok false ∧
        run host arguments = (perform host Config.standard verbose name rest).after earlier) ∨
      ∃ cause, (Config.load host).outcome = .error (.broken cause) ∧
        (run host arguments).ending = .broken cause) ∧
    (∀ settings command json manifest, (Config.load host).outcome = .ok settings →
      request name rest = .manifest command json manifest [] →
      argumentFault? host.files manifest = none → verbose = false →
      ∃ level earlier, Text.ofString level.name = v.upper ∧
        run host arguments =
          (onManifest host.files settings.1 level command json manifest).after earlier) := by
  constructor
  · cases hload : (Config.load host).outcome with
    | ok settings =>
        rw [run_of_loaded hinvocation hload]
        exact .inl (.performed (Config.keeps_load hload) (level_of_load hlevel hload))
    | error failure =>
        rcases Config.failure_of_load hload with
          ⟨cause, rfl⟩ | ⟨found, later, hkeeps, hfound, hnone, rfl⟩ | ⟨p, hpath, hread⟩
        · rw [run_of_broken hinvocation hload]
          exact .inr (.inr ⟨cause, rfl, rfl⟩)
        · -- The variable is filled from the start, so loading has left its value.
          cases hfound.symm.trans (Config.filled?_of_keeps hkeeps hlevel)
          rw [run_of_invalid hinvocation hload]
          exact .inl (.badLevel hnone)
        · cases failure with
          | invalid fault =>
              rw [run_of_invalid hinvocation hload]
              exact .inl (.badFile hpath hread)
          | missing q =>
              obtain ⟨hheld, rfl⟩ := Config.readFile_eq_missing_iff.mp hread
              exact .inr (.inl ⟨q, _, hpath, hheld, run_of_missing hinvocation hload⟩)
          | broken cause =>
              rw [run_of_broken hinvocation hload]
              exact .inr (.inr ⟨cause, rfl, rfl⟩)
  · rintro ⟨config, later⟩ command json manifest hload hrequest hargument rfl
    have hperform := perform_of_manifest hrequest hargument later config false
    exact ⟨config.logLevel, _, level_of_load hlevel hload,
      (run_of_loaded hinvocation hload).trans (congrArg _ hperform)⟩

theorem heedsLevel_of_run_debug :
    let files : FileTree :=
      ⟨[([Text.ofString "h"], .directory), (["h", Config.fileName], .file [])], []⟩
    let host : Host :=
      ⟨files, [(Config.homeVariable, "h"), (Config.levelVariable, "debug")], ⟨"/", []⟩⟩
    ∃ config level earlier, Text.ofString level.name = ("debug" : Text).upper ∧
      run host ["status", "a.json"] =
        (onManifest files config level .status false "a.json").after earlier := by
  intro files host
  have hload : (Config.load host).outcome =
      .ok ({ Config.standard with logLevel := .debug }, host.environment) := by
    rfl
  have hinvocation : invocation ["status", "a.json"] = .command false .status ["a.json"] := by
    decide +kernel
  have hrequest : request .status ["a.json"] = .manifest .status false "a.json" [] := by
    decide +kernel
  have hargument : argumentFault? files "a.json" = none := by
    decide +kernel
  have hlevel : Config.filled? host.environment Config.levelVariable = some "debug" := by
    decide
  obtain ⟨-, hmanifest⟩ := heedsLevel_of_run hinvocation hlevel
  obtain ⟨level, earlier, hlevel, hrun⟩ := hmanifest _ _ _ _ hload hrequest hargument rfl
  exact ⟨_, level, earlier, hlevel, hrun⟩

/-- The variable names no level, and the run succeeds all the same. -/
theorem exitCode_of_ignored_level :
    let host : Host :=
      ⟨⟨[], []⟩, [(Config.homeVariable, "h"), (Config.levelVariable, "loud")], ⟨"/", []⟩⟩
    (∀ level : LogLevel, Text.ofString level.name ≠ ("loud" : Text).upper) ∧
      invocation ["init"] = .command false .init [] ∧ (run host ["init"]).exitCode = 0 := by
  refine ⟨?_, by decide +kernel, by decide +kernel⟩
  intro level
  cases level <;> decide

end Command
end ActorManifest
