import ActorManifest.Proofs.Command.Run
import ActorManifest.Proofs.Manifest.Failure

/-!
# Commands whose manifest is not loaded

A command on a manifest that is found fault with complains and fails.  So does every run of the
program that gets as far as such a manifest.
-/

namespace ActorManifest
namespace Command

theorem mem_writes_after {earlier : List Write} {r : Report} {write : Write}
    (hwrite : write ∈ r.writes) : write ∈ (r.after earlier).writes :=
  List.mem_append_right earlier hwrite

/-- The report complains about a manifest and fails. -/
def Report.Rejects (manifest : Text) (r : Report) : Prop :=
  r.ending = .exit 1 ∧ ∃ t, complaint (Text.concat ["✗ ", manifest, ": ", t]) ∈ r.writes

theorem Report.Rejects.after {manifest : Text} {r : Report} (hrejects : r.Rejects manifest)
    (earlier : List Write) : (r.after earlier).Rejects manifest := by
  obtain ⟨hending, t, ht⟩ := hrejects
  exact ⟨hending, t, mem_writes_after ht⟩

/-- The settings are valid, or there are none and the standard ones are taken. -/
def IsConfigured [Machine] (host : Host) : Prop :=
  (∃ settings, (Config.load host).outcome = .ok settings) ∨
    ∃ p, (Config.load host).outcome = .error (.missing p)

/-- A run on one manifest, with settings, does what its command does on that manifest. -/
theorem exists_run_eq_onManifest [Machine]
    {host : Host} {arguments rest : List Text} {verbose json : Bool} {name command : Name}
    {manifest : Text} (hinvocation : invocation arguments = .command verbose name rest)
    (hrequest : request name rest = .manifest command json manifest [])
    (hconfigured : IsConfigured host) (hargument : argumentFault? host.files manifest = none) :
    ∃ config level earlier, run host arguments =
      (onManifest host.files config level command json manifest).after earlier := by
  obtain ⟨config, hworks⟩ : ∃ config, WorksWith host config := by
    rcases hconfigured with ⟨settings, hload⟩ | ⟨p, hload⟩
    · exact ⟨settings.1, .loaded hload⟩
    · exact ⟨Config.standard, .standard hload⟩
  obtain ⟨level, earlier, -, hrun⟩ :=
    hworks.exists_run_eq_onManifest hinvocation hrequest hargument
  exact ⟨config, level, earlier, hrun⟩

end Command
end ActorManifest
