import ActorManifest.Proofs.Command.Session
import ActorManifest.Proofs.Command.Shown

/-!
# Inspecting a manifest that validates

The commands on manifests load the same manifest with the same settings and differ in the lines that
they print.  A manifest validates if its actor is loaded and has a name that can be printed.  What
else is printed about it, and the settings that are printed with it, may still keep a command from
success.
-/

namespace ActorManifest
namespace Command

variable {host : Host} {files : FileTree} {config : Config} {manifest : Text}

/-! ## Runs that succeed -/

theorem exitCode_loadFailure (files : FileTree) (manifest : Text) (failure : Failure) :
    (loadFailure files manifest failure).exitCode = 1 := by
  cases failure <;> rfl

theorem onManifest_of_load [Machine]
    {a : Actor} (hload : (Manifest.load files (.ofText manifest) none).outcome = .ok a)
    (config : Config) (level : LogLevel) (name : Name) (json : Bool) :
    onManifest files config level name json manifest =
      (printing files (linesOf config name json a)).after
        (noticeWrites level (Manifest.load files (.ofText manifest) none).notices) := by
  simp only [onManifest, hload]

/-- A command on a manifest succeeds if and only if the manifest is loaded and every line about
it can be printed. -/
theorem exitCode_onManifest_eq_zero_iff [Machine] {level : LogLevel} {name : Name} {json : Bool} :
    (onManifest files config level name json manifest).exitCode = 0 ↔
      ∃ a, (Manifest.load files (.ofText manifest) none).outcome = .ok a ∧
        ∀ line ∈ linesOf config name json a, IsPrintable line := by
  cases hload : (Manifest.load files (.ofText manifest) none).outcome with
  | error failure =>
      have hcode : (onManifest files config level name json manifest).exitCode = 1 := by
        simp only [onManifest, hload]
        exact exitCode_loadFailure files manifest failure
      rw [hcode]
      refine iff_of_false Nat.one_ne_zero ?_
      rintro ⟨a, ha, -⟩
      cases ha
  | ok a =>
      rw [onManifest_of_load hload, exitCode_after, exitCode_printing_eq_zero_iff]
      constructor
      · exact fun hlines => ⟨a, rfl, hlines⟩
      · rintro ⟨b, hb, hlines⟩
        cases hb
        exact hlines

theorem exitCode_of_argumentFault?
    {ending : Ending} (hfault : argumentFault? files manifest = some ending) :
    (Report.mk [] ending files).exitCode ≠ 0 := by
  unfold argumentFault? at hfault
  split at hfault <;> cases hfault <;> exact Nat.succ_ne_zero _

section

variable {arguments rest : List Text} {verbose : Bool} {name command : Name} {json : Bool}
  (hinvocation : invocation arguments = .command verbose name rest)
  (hrequest : request name rest = .manifest command json manifest [])

include hinvocation hrequest

theorem argumentFault?_of_exitCode [Machine] (hcode : (run host arguments).exitCode = 0) :
    argumentFault? host.files manifest = none := by
  cases hargument : argumentFault? host.files manifest with
  | none => rfl
  | some ending =>
      obtain ⟨config, hworks⟩ := exists_worksWith_of_exitCode hinvocation hcode
      obtain ⟨later, hrun⟩ := hworks.exists_run_eq hinvocation
      simp only [hrun, exitCode_after, perform, hrequest, hargument] at hcode
      exact absurd hcode (exitCode_of_argumentFault? hargument)

/-- A run on one manifest succeeds if and only if there are settings, nothing is wrong with the
path that it is given, the manifest is loaded, and every line about it can be printed. -/
theorem exitCode_run_eq_zero_iff [Machine] :
    (run host arguments).exitCode = 0 ↔
      argumentFault? host.files manifest = none ∧ ∃ config a, WorksWith host config ∧
        (Manifest.load host.files (.ofText manifest) none).outcome = .ok a ∧
        ∀ line ∈ linesOf config command json a, IsPrintable line := by
  constructor
  · intro hcode
    have hargument := argumentFault?_of_exitCode hinvocation hrequest hcode
    obtain ⟨config, hworks⟩ := exists_worksWith_of_exitCode hinvocation hcode
    obtain ⟨level, earlier, -, hrun⟩ :=
      hworks.exists_run_eq_onManifest hinvocation hrequest hargument
    rw [hrun, exitCode_after, exitCode_onManifest_eq_zero_iff] at hcode
    obtain ⟨a, ha⟩ := hcode
    exact ⟨hargument, config, a, hworks, ha⟩
  · rintro ⟨hargument, config, a, hworks, ha⟩
    obtain ⟨level, earlier, -, hrun⟩ :=
      hworks.exists_run_eq_onManifest hinvocation hrequest hargument
    rw [hrun, exitCode_after, exitCode_onManifest_eq_zero_iff]
    exact ⟨a, ha⟩

end

/-! ## Arguments that name a manifest -/

/-- The text is taken as it stands, and not for flags. -/
def IsArgument (t : Text) : Prop :=
  ¬(t.head? = some dash ∧ 1 < t.length)

theorem scan_of_isArgument (flags : List Flag) {t : Text} (ht : IsArgument t) (rest : List Text) :
    scan flags false (t :: rest) =
      (scan flags false rest).map fun (found, others) => (found, t :: others) := by
  have hdashes : t ≠ [dash, dash] := by
    rintro rfl
    exact ht ⟨rfl, Nat.one_lt_two⟩
  rw [scan, if_neg hdashes, if_neg ht, if_neg Bool.false_ne_true]

/-- Where help is the only flag, nothing else that looks like flags is understood. -/
theorem flagsOf?_help
    {t : Text} (ht : ¬IsArgument t) (hhelp : t ≠ Text.ofString Flag.help.longName) :
    flagsOf? [.help] t = none := by
  obtain ⟨hhead, hlength⟩ := Decidable.not_not.mp ht
  unfold flagsOf?
  split
  · have hother : (Text.ofString Flag.help.longName == _) = false :=
      beq_eq_false_iff_ne.mpr (Ne.symm hhelp)
    simp only [longFlag?, List.find?_cons, List.find?_nil, hother, Option.map_none]
  · rcases t with _ | ⟨c, _ | ⟨letter, more⟩⟩
    · cases hhead
    · exact absurd hlength (Nat.lt_irrefl 1)
    · rfl

theorem request_validate
    {t : Text} (ht : ¬IsArgument t) (hhelp : t ≠ Text.ofString Flag.help.longName) :
    request .validate [t] = .usage := by
  by_cases hdashes : t = [dash, dash]
  · rw [hdashes]
    rfl
  · have hlooks := Decidable.not_not.mp ht
    have hscan : scan [.help] false [t] = none := by
      rw [scan, if_neg hdashes, if_pos hlooks, flagsOf?_help ht hhelp]
      rfl
    rw [request, Name.flags, hscan]

theorem request_of_isArgument
    {t : Text} (ht : IsArgument t) :
    request .validate [t] = .manifest .validate false t [] ∧
      request .status [t] = .manifest .status false t [] ∧
      request .show [t] = .manifest .show false t [] ∧
      request .show [t, Text.ofString Flag.json.longName] = .manifest .show true t [] := by
  have hjson : scan Name.show.flags false [Text.ofString Flag.json.longName] =
      some ([.json], []) := by
    decide
  refine ⟨?_, ?_, ?_, ?_⟩
  · rw [request, scan_of_isArgument _ ht]
    rfl
  · rw [request, scan_of_isArgument _ ht]
    rfl
  · rw [request, scan_of_isArgument _ ht]
    rfl
  · rw [request, scan_of_isArgument _ ht, hjson]
    rfl

/-! ## Errands on a manifest -/

/-- The report of an errand that is run on a host. -/
def Errand.report [Machine] (errand : Errand) (host : Host) (verbose : Bool) : Report :=
  Visit.report ⟨errand, verbose, host.environment, host.users⟩ host.files

theorem Errand.report_eq [Machine] (errand : Errand) (host : Host) (verbose : Bool) :
    ∃ arguments, invocation arguments = .command verbose errand.name errand.given ∧
      errand.report host verbose = run host arguments :=
  ⟨_, Visit.invocation_eq ⟨errand, verbose, host.environment, host.users⟩, rfl⟩

/-- A manifest validates if and only if it is loaded with some settings and its actor has a name
that can be printed. -/
theorem exitCode_validate_eq_zero_iff [Machine]
    {verbose : Bool} (hhelp : manifest ≠ Text.ofString Flag.help.longName) :
    ((Errand.validate manifest).report host verbose).exitCode = 0 ↔
      IsArgument manifest ∧ argumentFault? host.files manifest = none ∧
        ∃ config a, WorksWith host config ∧
          (Manifest.load host.files (.ofText manifest) none).outcome = .ok a ∧
          a.name.hasSurrogate = false := by
  obtain ⟨arguments, hinvocation, hreport⟩ := (Errand.validate manifest).report_eq host verbose
  rw [hreport]
  by_cases hargument : IsArgument manifest
  · obtain ⟨hrequest, -⟩ := request_of_isArgument hargument
    rw [exitCode_run_eq_zero_iff hinvocation hrequest, and_iff_right hargument]
    simp only [linesOf, List.forall_mem_map, isPrintable_ok_iff, hasSurrogate_validLines_iff]
  · refine iff_of_false ?_ fun h => hargument h.1
    intro hcode
    have hrequest : request .validate [manifest] = .usage := request_validate hargument hhelp
    obtain ⟨config, hworks⟩ := exists_worksWith_of_exitCode hinvocation hcode
    obtain ⟨later, hrun⟩ := hworks.exists_run_eq hinvocation
    simp only [hrun, exitCode_after, perform, Errand.name, Errand.given, hrequest] at hcode
    cases hcode

/-- What comes of inspecting a manifest by the settings and by the actor that it holds. -/
structure IsInspectedAs [Machine]
    (host : Host) (manifest : Text) (config : Config) (a : Actor) (verbose : Bool) : Prop where
  shown : ((Errand.show manifest false).report host verbose).exitCode = 0 ↔
    HasPrintableText (shownSpace config a) ∧ HasPrintableText (shownPath config a) ∧
      IsPlainlyShown a.spec
  shownJson : ((Errand.show manifest true).report host verbose).exitCode = 0 ↔
    ∃ space path, (shownSpace config a).toJson = .ok space ∧
      (shownPath config a).toJson = .ok path
  status : ((Errand.status manifest).report host verbose).exitCode = 0 ↔
    ∀ c ∈ a.status.conditions, c.reason.hasSurrogate = false ∧ c.message.hasSurrogate = false
  readBack : HasShallowForm (shownSpace config a) → HasShallowForm (shownPath config a) →
    ∃ fields,
      Json.read (((Errand.show manifest true).report host verbose).textOn .output) =
        .ok (.object fields) ∧ (HasJoinedText a.spec → IsDerivedFrom a.spec fields)

/-- An errand on a manifest that is loaded prints the lines of its command, behind some lines among
the errors. -/
theorem Errand.report_of_load [Machine]
    (errand : Errand) {command : Name} {json : Bool} {a : Actor}
    (hrequest : request errand.name errand.given = .manifest command json manifest [])
    (hfault : argumentFault? host.files manifest = none) (hworks : WorksWith host config)
    (hload : (Manifest.load host.files (.ofText manifest) none).outcome = .ok a) (verbose : Bool) :
    ((errand.report host verbose).exitCode = 0 ↔
        ∀ line ∈ linesOf config command json a, IsPrintable line) ∧
      (errand.report host verbose).textOn .output =
        (printing host.files (linesOf config command json a)).textOn .output := by
  obtain ⟨arguments, hinvocation, hreport⟩ := errand.report_eq host verbose
  obtain ⟨level, earlier, hearlier, hrun⟩ :=
    hworks.exists_run_eq_onManifest hinvocation hrequest hfault
  have hnotices : ∀ write ∈ noticeWrites level
      (Manifest.load host.files (.ofText manifest) none).notices, write.stream = .errors := by
    rw [noticeWrites, List.forall_mem_map]
    exact fun _ _ => rfl
  rw [hreport, hrun, onManifest_of_load hload, exitCode_after, exitCode_after,
    textOn_output_after hearlier, textOn_output_after hnotices]
  exact ⟨exitCode_printing_eq_zero_iff _, rfl⟩

/-- The lines of a JSON value are printed as they are. -/
theorem textOn_printing_indented (files : FileTree) (j : Json) :
    (printing files [.ok (j.indented 0)]).textOn .output =
      j.indented 0 ++ Text.ofString "\n" := by
  have hascii := Json.isAscii_indented 0 j
  have hbreak : Text.IsAscii (Text.ofString "\n") := by
    decide
  rw [printing_cons_of_ok hascii.hasSurrogate, plain_of_isAscii (hascii.append hbreak)]
  exact List.append_nil _

theorem isInspectedAs_of_load [Machine]
    {a : Actor} {verbose : Bool} (hargument : IsArgument manifest)
    (hfault : argumentFault? host.files manifest = none) (hworks : WorksWith host config)
    (hload : (Manifest.load host.files (.ofText manifest) none).outcome = .ok a)
    (hname : a.name.hasSurrogate = false) : IsInspectedAs host manifest config a verbose := by
  obtain ⟨-, hstatus, hshow, hjson⟩ := request_of_isArgument hargument
  constructor
  · rw [((Errand.show manifest false).report_of_load hshow hfault hworks hload verbose).1]
    refine isPrintable_showLines_iff.trans ?_
    rw [hname]
    exact and_iff_right rfl
  · rw [((Errand.show manifest true).report_of_load hjson hfault hworks hload verbose).1]
    exact (List.forall_mem_singleton).trans isPrintable_derivedJson_iff
  · rw [((Errand.status manifest).report_of_load hstatus hfault hworks hload verbose).1]
    simp only [linesOf, List.forall_mem_map, isPrintable_ok_iff, hasSurrogate_statusLines_iff]
    exact and_iff_right hname
  · intro hspace hpath
    obtain ⟨space, hspace', -⟩ := id hspace
    obtain ⟨path, hpath', -⟩ := id hpath
    have hderived := derivedJson_eq_ok_iff.mpr ⟨space, path, hspace', hpath', rfl⟩
    rw [((Errand.show manifest true).report_of_load hjson hfault hworks hload verbose).2]
    simp only [linesOf, hderived, if_pos, Except.map, textOn_printing_indented]
    exact exists_read_of_derivedJson hderived hspace hpath

/-- A manifest that validates is loaded with some settings, and its inspection goes by these and by
its actor: it can be shown if the settings have texts and no text holds a surrogate, it can be shown
in JSON if the settings have JSON forms, and its status can be if the conditions hold no surrogate.
What is shown in JSON is read back where the settings are not nested too deeply. -/
theorem inspected_of_validated [Machine]
    {verbose : Bool} (hhelp : manifest ≠ Text.ofString Flag.help.longName)
    (hvalid : ((Errand.validate manifest).report host verbose).exitCode = 0) :
    ∃ config a, WorksWith host config ∧
      (Manifest.load host.files (.ofText manifest) none).outcome = .ok a ∧
      ∀ verbose, IsInspectedAs host manifest config a verbose := by
  obtain ⟨hargument, hfault, config, a, hworks, hload, hname⟩ :=
    (exitCode_validate_eq_zero_iff hhelp).mp hvalid
  exact ⟨config, a, hworks, hload, fun _ =>
    isInspectedAs_of_load hargument hfault hworks hload hname⟩

/-- A host with a configuration and a manifest. -/
def hostShowing (settings : List UInt8) (manifest : String) : Host :=
  ⟨⟨[([Text.ofString "h"], .directory), (["h", Config.fileName], .file settings),
      ([Text.ofString "a.json"], .file manifest.toUTF8.toList)], []⟩,
    [(Config.homeVariable, "h")], ⟨"/", []⟩⟩

/-- A spec with a variable and an exposed port. -/
def webSpec : Spec where
  name := "web"
  repository := "r"
  commit := "c"
  description := []
  image := []
  command := none
  path := none
  reference := none
  environments := some [("A", "1")]
  partners := none
  services := some [⟨[⟨80, none, some true, by decide⟩], none⟩]
  sync := none
  build := none
  identified := by decide

theorem inspected_of_validated_web :
    let host := hostShowing []
      ("\x7b\"name\":\"web\",\"repository\":\"r\",\"commit\":\"c\"," ++
        "\"environments\":\x7b\"A\":\"1\"\x7d," ++
        "\"services\":[\x7b\"ports\":[\x7b\"port\":80,\"expose\":true\x7d]\x7d]\x7d")
    ((Errand.validate "a.json").report host false).exitCode = 0 ∧
      ((Errand.show "a.json" false).report host false).exitCode = 0 ∧
      ((Errand.show "a.json" true).report host false).exitCode = 0 ∧
      ((Errand.status "a.json").report host false).exitCode = 0 ∧
      ∃ fields,
        Json.read (((Errand.show "a.json" true).report host false).textOn .output) =
          .ok (.object fields) ∧ IsDerivedFrom webSpec fields := by
  intro host
  have hload : (Manifest.load host.files (.ofText "a.json") none).outcome =
      .ok (.ofSpec webSpec) := by
    decide +kernel
  have hconfig : (Config.load host).outcome = .ok (Config.standard, host.environment) := by
    rfl
  have hhelp : ("a.json" : Text) ≠ Text.ofString Flag.help.longName := by
    decide
  have hargument : IsArgument "a.json" := by
    unfold IsArgument
    decide
  have hfault : argumentFault? host.files "a.json" = none := by
    decide +kernel
  have hplain : IsPlainlyShown webSpec := by
    constructor <;> decide
  have hvalid : ((Errand.validate "a.json").report host false).exitCode = 0 :=
    (exitCode_validate_eq_zero_iff hhelp).mpr
      ⟨hargument, hfault, _, _, .loaded hconfig, hload, by decide⟩
  obtain ⟨config, a, hworks, hloaded, hinspected⟩ := inspected_of_validated hhelp hvalid
  obtain rfl := hworks.unique (.loaded hconfig)
  cases hloaded.symm.trans hload
  have hspace : HasPrintableText (shownSpace Config.standard (.ofSpec webSpec)) :=
    ⟨_, rfl, by decide⟩
  have hpath : HasPrintableText (shownPath Config.standard (.ofSpec webSpec)) :=
    ⟨_, rfl, by decide⟩
  have hjoined : HasJoinedText webSpec := by
    constructor <;> decide
  obtain ⟨hshow, hjson, hstatus, hread⟩ := hinspected false
  obtain ⟨fields, hfields, hderived⟩ := hread (hasShallowForm_text _) (hasShallowForm_text _)
  exact ⟨hvalid, hshow.mpr ⟨hspace, hpath, hplain⟩, hjson.mpr ⟨_, _, rfl, rfl⟩,
    hstatus.mpr (List.forall_mem_nil _), fields, hfields, hderived hjoined⟩

/-- The configuration is accepted and the manifest validates, but the namespace of the
configuration, a date, has no JSON form. -/
theorem not_shown_of_date :
    let host := hostShowing "namespace: 2024-01-02\n".toUTF8.toList
      "\x7b\"name\":\"web\",\"repository\":\"r\",\"commit\":\"c\"\x7d"
    (∃ settings, (Config.load host).outcome = .ok settings) ∧
      ((Errand.validate "a.json").report host false).exitCode = 0 ∧
      ((Errand.show "a.json" true).report host false).exitCode = 1 := by
  intro host
  have hsettings : (Config.load host).outcome.map (fun _ => ()) = .ok () := by
    decide +kernel
  have hactor : (Manifest.load host.files (.ofText "a.json") none).outcome.map
      (fun a => a.name.hasSurrogate) = .ok false := by
    decide +kernel
  have hargument : IsArgument "a.json" := by
    unfold IsArgument
    decide
  have hfault : argumentFault? host.files "a.json" = none := by
    decide +kernel
  obtain ⟨settings, hconfig, -⟩ := map_eq_ok_iff.mp hsettings
  obtain ⟨a, hload, hname⟩ := map_eq_ok_iff.mp hactor
  have hvalid : ((Errand.validate "a.json").report host false).exitCode = 0 :=
    (exitCode_validate_eq_zero_iff (by decide)).mpr
      ⟨hargument, hfault, _, _, .loaded hconfig, hload, hname⟩
  exact ⟨⟨settings, hconfig⟩, hvalid, by decide +kernel⟩

end Command
end ActorManifest
