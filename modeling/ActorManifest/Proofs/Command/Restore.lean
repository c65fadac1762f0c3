import ActorManifest.Proofs.Command.Session
import ActorManifest.Proofs.Config.Precedence

/-!
# Restoring the configuration

A forced `init` writes the standard configuration over the one that is there, whatever that holds.
But the program loads the old configuration first.  So the command succeeds if and only if the
configuration that it is to restore can still be loaded.
-/

namespace ActorManifest
namespace Command

variable {host : Host} {home : Path} {content : List UInt8}

/-- A forced `init` writes over the file of the configuration and over nothing else. -/
theorem setUp_of_entry
    (hhome : Config.home host = .ok home)
    (hprintable : (home.append [Config.fileName]).text.hasSurrogate = false)
    (hentry : host.files.entry (home.append [Config.fileName]) = .ok (.file content)) :
    (setUp host true).exitCode = 0 ∧
    (∃ octets, Utf8.encode? standardText = some octets ∧
      (setUp host true).files.entry (home.append [Config.fileName]) = .ok (.file octets)) ∧
    ∀ place, host.files.locate (home.append [Config.fileName]) ≠ .ok place →
      (setUp host true).files.at? place = host.files.at? place := by
  have hdirectory : host.files.holds home = .ok true :=
    FileTree.holds_eq_true_iff.mpr ⟨_, FileTree.entry_of_append hentry⟩
  have hheld : host.files.holds (home.append [Config.fileName]) = .ok true :=
    FileTree.holds_eq_true_iff.mpr ⟨_, hentry⟩
  have hready : withHome host.files home = (host.files, none) := by
    rw [withHome, hdirectory]
  obtain ⟨octets, hoctets⟩ : ∃ octets, Utf8.encode? standardText = some octets := ⟨_, rfl⟩
  obtain ⟨later, hwrite, hlater, hothers⟩ := FileTree.exists_write_of_entry hentry octets
  obtain ⟨writes, hprinting⟩ := exists_printing_initialized later hprintable
  have hreport : setUp host true = ⟨writes, .exit 0, later⟩ := by
    unfold setUp
    simp only [hhome, hready, hheld, hoctets, hwrite, hprinting, Bool.not_true, Bool.and_false,
      Bool.false_eq_true, if_false]
  rw [hreport]
  exact ⟨rfl, ⟨octets, hoctets, hlater⟩, hothers⟩

/-- A configuration that is a file is loaded, or the run fails before it does anything. -/
theorem run_of_error [Machine]
    {arguments rest : List Text} {verbose : Bool} {name : Name} {failure : ConfigFailure}
    (hinvocation : invocation arguments = .command verbose name rest)
    (hhome : Config.home host = .ok home)
    (hentry : host.files.entry (home.append [Config.fileName]) = .ok (.file content))
    (hload : (Config.load host).outcome = .error failure) :
    (run host arguments).exitCode = 1 ∧ (run host arguments).files = host.files := by
  cases failure with
  | invalid fault =>
      rw [run_of_invalid hinvocation hload]
      exact ⟨rfl, rfl⟩
  | broken cause =>
      rw [run_of_broken hinvocation hload]
      exact ⟨rfl, rfl⟩
  | missing p =>
      rcases Config.failure_of_load hload with
        ⟨cause, hcause⟩ | ⟨v, later, -, -, -, hinvalid⟩ | ⟨q, hpath, hread⟩
      · cases hcause
      · cases hinvalid
      · obtain ⟨hheld, rfl⟩ := Config.readFile_eq_missing_iff.mp hread
        rw [Config.path, hhome] at hpath
        cases hpath
        rw [FileTree.holds_eq_true_iff.mpr ⟨_, hentry⟩] at hheld
        cases hheld

/-- A forced `init` on a configuration that is a file succeeds if and only if that configuration
can be loaded.  It then leaves the standard one, and else it leaves everything as it is. -/
theorem restored_by_run [Machine]
    {arguments rest : List Text} {verbose : Bool} {name : Name} {t : Text}
    (hinvocation : invocation arguments = .command verbose name rest)
    (hrequest : request name rest = .init true)
    (hvariable : host.environment.get? Config.homeVariable = some t) (hfilled : t ≠ [])
    (htilde : Path.tilde ∉ t ∨ ∃ own, host.environment.get? "HOME" = some own)
    (hhome : Config.home host = .ok home)
    (hprintable : (home.append [Config.fileName]).text.hasSurrogate = false)
    (hentry : host.files.entry (home.append [Config.fileName]) = .ok (.file content)) :
    ((run host arguments).exitCode = 0 ↔ ∃ settings, (Config.load host).outcome = .ok settings) ∧
    ((run host arguments).exitCode = 0 →
      (∀ environment, host.environment.Keeps environment →
        environment.get? Config.levelVariable = none →
        (Config.load ⟨(run host arguments).files, environment, host.users⟩).outcome =
          .ok (Config.standard, environment)) ∧
      ∀ place, host.files.locate (home.append [Config.fileName]) ≠ .ok place →
        (run host arguments).files.at? place = host.files.at? place) ∧
    ((run host arguments).exitCode ≠ 0 →
      (run host arguments).exitCode = 1 ∧ (run host arguments).files = host.files) := by
  have hstays : ∀ files environment, host.environment.Keeps environment →
      Config.home ⟨files, environment, host.users⟩ = .ok home :=
    fun files _ hkeeps => (Config.home_of_keeps files hvariable hfilled htilde hkeeps).trans hhome
  cases hload : (Config.load host).outcome with
  | ok settings =>
      -- The command runs with the variables that loading leaves, and they name the same directory.
      have hkeeps := Config.keeps_load hload
      have hperform : perform { host with environment := settings.2 } settings.1 verbose name rest =
          setUp { host with environment := settings.2 } true := by
        simp only [perform, hrequest]
      obtain ⟨hcode, ⟨octets, hoctets, hwritten⟩, hothers⟩ :=
        setUp_of_entry (hstays host.files settings.2 hkeeps) hprintable hentry
      rw [run_of_loaded hinvocation hload, hperform]
      refine ⟨iff_of_true hcode ⟨settings, rfl⟩, fun _ => ⟨?_, hothers⟩, fun hfails => ?_⟩
      · intro environment hlater hlevel
        exact load_of_standardText (hstays _ _ hlater) hoctets hwritten hlevel
      · exact absurd hcode hfails
  | error failure =>
      obtain ⟨hcode, hfiles⟩ := run_of_error hinvocation hhome hentry hload
      rw [hcode]
      refine ⟨iff_of_false Nat.one_ne_zero ?_, fun hzero => absurd hzero Nat.one_ne_zero,
        fun _ => ⟨rfl, hfiles⟩⟩
      rintro ⟨settings, hsettings⟩
      cases hsettings

/-- A host whose configuration has some content. -/
def hostWith (content : List UInt8) : Host :=
  ⟨⟨[([Text.ofString "h"], .directory), (["h", Config.fileName], .file content)], []⟩,
    [(Config.homeVariable, "h")], ⟨"/", []⟩⟩

theorem restored_by_run_of_namespace :
    let host := hostWith "namespace: ops\n".toUTF8.toList
    (run host ["init", "--force"]).exitCode = 0 ∧
      (Config.load { host with files := (run host ["init", "--force"]).files }).outcome =
        .ok (Config.standard, host.environment) := by
  intro host
  have hinvocation : invocation ["init", "--force"] = .command false .init ["--force"] := by
    decide +kernel
  have hrequest : request .init ["--force"] = .init true := by
    decide +kernel
  have hhome : Config.home host = .ok (Path.ofText "h") := by
    decide +kernel
  have hloaded : ∃ settings, (Config.load host).outcome = .ok settings := by
    have hload : (Config.load host).outcome.isOk = true := by
      decide +kernel
    cases houtcome : (Config.load host).outcome with
    | ok settings => exact ⟨settings, rfl⟩
    | error failure =>
        rw [houtcome] at hload
        cases hload
  obtain ⟨hcode, hrestored, -⟩ := restored_by_run hinvocation hrequest rfl (by decide)
    (.inl (by decide)) hhome (by decide) rfl
  have hzero := hcode.mpr hloaded
  exact ⟨hzero, (hrestored hzero).1 host.environment (.refl _) rfl⟩

/-- The configuration names no level, and for that it is not restored. -/
theorem not_restored_of_bad_level :
    let host := hostWith "log_level: LOUD\n".toUTF8.toList
    request .init ["--force"] = .init true ∧
      host.environment.get? Config.levelVariable = none ∧
      (run host ["init", "--force"]).exitCode = 1 ∧
      (run host ["init", "--force"]).files.entries = host.files.entries := by
  decide +kernel

end Command
end ActorManifest
