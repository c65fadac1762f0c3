import ActorManifest.Command.Run

/-!
# Runs by what comes of their configuration

A run of a command ends before the command does anything, if its configuration is not loaded, or
it does what the command does.  A configuration that is missing does not count as not loaded.
-/

namespace ActorManifest
namespace Command

variable {host : Host} {arguments rest : List Text} {verbose : Bool} {name : Name}

section

variable (hinvocation : invocation arguments = .command verbose name rest)

include hinvocation

theorem run_of_loaded [Machine]
    {config : Config} {later : Variables}
    (hload : (Config.load host).outcome = .ok (config, later)) :
    run host arguments = Report.after (earlyWrites (Config.load host).notices)
      (perform { host with environment := later } config verbose name rest) := by
  simp only [run, hinvocation, hload]

theorem run_of_missing [Machine]
    {p : Path} (hload : (Config.load host).outcome = .error (.missing p)) :
    run host arguments = Report.after (earlyWrites (Config.load host).notices)
      (perform host Config.standard verbose name rest) := by
  simp only [run, hinvocation, hload]

theorem run_of_invalid [Machine]
    {fault : ConfigFault} (hload : (Config.load host).outcome = .error (.invalid fault)) :
    run host arguments = Report.after (earlyWrites (Config.load host).notices)
      (failing host.files (Text.concat ["✗ Invalid config: ", fault.message])) := by
  simp only [run, hinvocation, hload]

theorem run_of_broken [Machine]
    {cause : Breakdown} (hload : (Config.load host).outcome = .error (.broken cause)) :
    run host arguments = Report.after (earlyWrites (Config.load host).notices)
      (stopped host.files cause) := by
  simp only [run, hinvocation, hload]

end

/-! ## Settings of a run -/

/-- The settings with which commands do their work: those that are loaded, or the standard ones
where there is no configuration. -/
inductive WorksWith [Machine] (host : Host) : Config → Prop
  | loaded {config : Config} {later : Variables}
      (hload : (Config.load host).outcome = .ok (config, later)) : WorksWith host config
  | standard {p : Path} (hload : (Config.load host).outcome = .error (.missing p)) :
      WorksWith host Config.standard

theorem WorksWith.unique [Machine]
    {config other : Config} (hconfig : WorksWith host config) (hother : WorksWith host other) :
    config = other := by
  cases hconfig with
  | loaded hload =>
      cases hother with
      | loaded hother =>
          rw [hload] at hother
          cases hother
          rfl
      | standard hother =>
          rw [hload] at hother
          cases hother
  | standard hload =>
      cases hother with
      | loaded hother =>
          rw [hload] at hother
          cases hother
      | standard hother => rfl

/-- With settings, a run does what its command does with the variables that they leave. -/
theorem WorksWith.exists_run_eq [Machine]
    {config : Config} (hworks : WorksWith host config)
    (hinvocation : invocation arguments = .command verbose name rest) :
    ∃ later, run host arguments = Report.after (earlyWrites (Config.load host).notices)
      (perform { host with environment := later } config verbose name rest) := by
  cases hworks with
  | loaded hload => exact ⟨_, run_of_loaded hinvocation hload⟩
  | standard hload => exact ⟨host.environment, run_of_missing hinvocation hload⟩

/-- Without settings a run fails. -/
theorem exists_worksWith_of_exitCode [Machine]
    (hinvocation : invocation arguments = .command verbose name rest)
    (hcode : (run host arguments).exitCode = 0) : ∃ config, WorksWith host config := by
  cases hload : (Config.load host).outcome with
  | ok settings => exact ⟨settings.1, .loaded hload⟩
  | error failure =>
      cases failure with
      | missing p => exact ⟨Config.standard, .standard hload⟩
      | invalid fault =>
          rw [run_of_invalid hinvocation hload] at hcode
          cases hcode
      | broken cause =>
          rw [run_of_broken hinvocation hload] at hcode
          cases hcode

/-! ## Commands on one manifest -/

/-- A command on one manifest depends on the variables and on the flag for details by its level
alone. -/
theorem perform_of_manifest [Machine]
    {command : Name} {json : Bool} {manifest : Text}
    (hrequest : request name rest = .manifest command json manifest [])
    (hargument : argumentFault? host.files manifest = none) (environment : Variables)
    (config : Config) (verbose : Bool) :
    perform { host with environment } config verbose name rest =
      onManifest host.files config (if verbose then .debug else config.logLevel) command json
        manifest := by
  simp only [perform, hrequest, hargument]

/-- With settings, a run on one manifest does what its command does on that manifest, behind some
lines among the errors. -/
theorem WorksWith.exists_run_eq_onManifest [Machine]
    {config : Config} (hworks : WorksWith host config) {command : Name} {json : Bool}
    {manifest : Text} (hinvocation : invocation arguments = .command verbose name rest)
    (hrequest : request name rest = .manifest command json manifest [])
    (hargument : argumentFault? host.files manifest = none) :
    ∃ level earlier, (∀ write ∈ earlier, write.stream = .errors) ∧
      run host arguments =
        (onManifest host.files config level command json manifest).after earlier := by
  obtain ⟨later, hrun⟩ := hworks.exists_run_eq hinvocation
  rw [perform_of_manifest hrequest hargument] at hrun
  refine ⟨_, _, ?_, hrun⟩
  rw [earlyWrites, List.forall_mem_map]
  exact fun _ _ => rfl

end Command
end ActorManifest
