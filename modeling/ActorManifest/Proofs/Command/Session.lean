import ActorManifest.Proofs.Command.Printing
import ActorManifest.Proofs.Command.Run
import ActorManifest.Proofs.Config.Content
import ActorManifest.Proofs.Host.FileTree
import ActorManifest.Proofs.Yaml.RoundTrip

/-!
# The files of a session

A session is a list of commands that are run one after another, each on the files that the one
before it left.  Commands on manifests change no file.  An `init` that is not forced writes the
configuration where nothing was, and once there is one it refuses.
-/

namespace ActorManifest

theorem Text.hasSurrogate_eq_false_iff {t : Text} :
    t.hasSurrogate = false ↔ ∀ c ∈ t, c.toChar?.isSome = true := by
  simp [hasSurrogate, Option.isSome_iff_ne_none]

theorem Text.mem_join
    {separator : Text} {pieces : List Text} {c : CodePoint} (hc : c ∈ join separator pieces) :
    c ∈ separator ∨ ∃ piece ∈ pieces, c ∈ piece := by
  induction pieces with
  | nil => cases hc
  | cons piece pieces ih =>
      cases pieces with
      | nil => exact .inr ⟨piece, List.mem_cons_self, hc⟩
      | cons next more =>
          rw [join, List.mem_append, List.mem_append] at hc
          · rcases hc with (hc | hc) | hc
            · exact .inr ⟨piece, List.mem_cons_self, hc⟩
            · exact .inl hc
            · rcases ih hc with hc | ⟨found, hfound, hc⟩
              · exact .inl hc
              · exact .inr ⟨found, List.mem_cons_of_mem _ hfound, hc⟩
          · simp

/-- The path of a file in a directory has no surrogate but those of the directory. -/
theorem Path.hasSurrogate_text_append
    {t name : Text} (ht : t.hasSurrogate = false) (hname : name.hasSurrogate = false) :
    ((Path.ofText t).append [name]).text.hasSurrogate = false := by
  rw [Text.hasSurrogate_eq_false_iff] at ht hname ⊢
  have hstart : ∀ start : PathStart, ∀ c ∈ start.text, c.toChar?.isSome = true := by
    intro start
    cases start <;> decide
  have hjoin : ∀ c ∈ Text.join [separator] (namesOf t ++ [name]), c.toChar?.isSome = true := by
    intro c hc
    rcases Text.mem_join hc with hc | ⟨piece, hpiece, hc⟩
    · rw [List.mem_singleton] at hc
      rw [hc]
      rfl
    · rcases List.mem_append.mp hpiece with hpiece | hpiece
      · exact ht c (Text.mem_of_mem_splitAll (List.mem_filter.mp hpiece).1 hc)
      · rw [List.mem_singleton] at hpiece
        exact hname c (hpiece ▸ hc)
  intro c hc
  unfold text at hc
  split at hc
  · rename_i hnames
    simp [append, ofText] at hnames
  · rcases List.mem_append.mp hc with hc | hc
    · exact hstart _ c hc
    · exact hjoin c hc

namespace Command

/-- Where a path can be printed, the success of making a configuration there is printed. -/
theorem exists_printing_initialized
    (files : FileTree) {target : Path} (htarget : target.text.hasSurrogate = false) :
    ∃ writes, printing files
      [.ok (Text.concat ["Initialized amphitheatre config at ", target.text])] =
        ⟨writes, .exit 0, files⟩ := by
  refine ⟨_, printing_cons_of_ok ?_ []⟩
  simp [htarget]

/-! ## Commands on manifests -/

theorem files_onManifest [Machine]
    (files : FileTree) (config : Config) (level : LogLevel) (name : Name) (json : Bool)
    (manifest : Text) : (onManifest files config level name json manifest).files = files := by
  unfold onManifest
  dsimp only
  split
  · rename_i failure hload
    cases failure <;> rfl
  · exact files_printing files _

theorem files_perform [Machine]
    {host : Host} {name : Name} {arguments : List Text}
    (hrequest : ∀ force, request name arguments ≠ .init force) (config : Config)
    (verbose : Bool) : (perform host config verbose name arguments).files = host.files := by
  unfold perform
  dsimp only
  split
  · rfl
  · exact files_printing _ _
  · rename_i force hinit
    exact absurd hinit (hrequest force)
  · split
    · rfl
    · rfl
    · exact files_onManifest _ _ _ _ _ _

theorem request_ne_init
    {name : Name} (hname : name ≠ .init) (arguments : List Text) (force : Bool) :
    request name arguments ≠ .init force := by
  unfold request
  split
  · exact Request.noConfusion
  · split
    · exact Request.noConfusion
    · split
      · exact absurd rfl hname
      · exact absurd rfl hname
      · exact Request.noConfusion
      · exact Request.noConfusion

/-- A run of a command ends before the command does anything, or it does what the command
does with the variables that the configuration leaves. -/
theorem exists_run_eq_after [Machine]
    (host : Host) {arguments rest : List Text} {verbose : Bool} {name : Name}
    (hinvocation : invocation arguments = .command verbose name rest) :
    ∃ writes report, run host arguments = Report.after writes report ∧
      (report.files = host.files ∧ report.exitCode = 1 ∨
        ∃ config later, host.environment.Keeps later ∧
          report = perform { host with environment := later } config verbose name rest) := by
  cases hload : (Config.load host).outcome with
  | ok settings =>
      exact ⟨_, _, run_of_loaded hinvocation hload,
        .inr ⟨settings.1, settings.2, Config.keeps_load hload, rfl⟩⟩
  | error failure =>
      cases failure with
      | invalid fault => exact ⟨_, _, run_of_invalid hinvocation hload, .inl ⟨rfl, rfl⟩⟩
      | missing p =>
          exact ⟨_, _, run_of_missing hinvocation hload,
            .inr ⟨Config.standard, host.environment, .refl _, rfl⟩⟩
      | broken cause => exact ⟨_, _, run_of_broken hinvocation hload, .inl ⟨rfl, rfl⟩⟩

/-! ## The command that makes a configuration -/

/-- What an `init` that is not forced may leave behind: it fails and makes directories at most,
or it writes the standard configuration where none was. -/
inductive Attempts (files : FileTree) (target : Path) (report : Report) : Prop where
  | refused (hfiles : files.OnlyAddsDirectories report.files) (hcode : report.exitCode = 1)
  | written {ready : FileTree} {place : Location} {octets : List UInt8}
      (hready : files.OnlyAddsDirectories ready) (hnew : files.holds target ≠ .ok true)
      (hkeeps : ready.Keeps report.files) (hplace : report.files.locate target = .ok place)
      (hcontent : report.files.at? place = some (.file octets))
      (hothers : ∀ other, other ≠ place → report.files.at? other = ready.at? other)
      (hoctets : Utf8.encode? standardText = some octets) (hcode : report.exitCode = 0)

theorem onlyAddsDirectories_withHome (files : FileTree) (home : Path) :
    files.OnlyAddsDirectories (withHome files home).1 := by
  unfold withHome
  split
  · exact .refl files
  · exact .refl files
  · exact FileTree.onlyAddsDirectories_makeDirectories files home

theorem attempts_setUp
    {host : Host} {home : Path} (hhome : Config.home host = .ok home)
    (hplain : (home.append [Config.fileName]).text.hasSurrogate = false) :
    Attempts host.files (home.append [Config.fileName]) (setUp host false) := by
  have hways := onlyAddsDirectories_withHome host.files home
  unfold setUp
  rw [hhome]
  dsimp only
  split
  · rename_i ready fault hready
    rw [hready] at hways
    exact .refused hways rfl
  · rename_i ready hready
    rw [hready] at hways
    split
    · exact .refused hways rfl
    · rename_i found hfound
      cases found with
      | true => exact .refused hways rfl
      | false =>
          simp only [Bool.false_and, Bool.false_eq_true, if_false]
          split
          · exact .refused hways rfl
          · rename_i octets hoctets
            split
            · exact .refused hways rfl
            · rename_i later hwrite
              obtain ⟨place, hplace, -, hkeeps, hcontent, hothers⟩ :=
                FileTree.exists_place_of_write hfound hwrite
              obtain ⟨writes, hprinting⟩ := exists_printing_initialized later hplain
              rw [hprinting]
              refine .written hways ?_ hkeeps hplace hcontent hothers hoctets rfl
              intro hheld
              have hheld' := FileTree.holds_of_keeps hways.toKeeps hheld
              rw [hfound] at hheld'
              cases hheld'

theorem Attempts.after
    {files : FileTree} {target : Path} {report : Report}
    (hattempts : Attempts files target report) (writes : List Write) :
    Attempts files target (report.after writes) := by
  cases hattempts with
  | refused hfiles hcode => exact .refused hfiles hcode
  | written hready hnew hkeeps hplace hcontent hothers hoctets hcode =>
      exact .written hready hnew hkeeps hplace hcontent hothers hoctets hcode

namespace Attempts

variable {files : FileTree} {target : Path} {report : Report}

theorem keeps (hattempts : Attempts files target report) : files.Keeps report.files := by
  cases hattempts with
  | refused hfiles hcode => exact hfiles.toKeeps
  | written hready hnew hkeeps hplace hcontent hothers hoctets hcode =>
      exact hready.toKeeps.trans hkeeps

theorem exitCode_eq_one
    (hattempts : Attempts files target report) (hheld : files.holds target = .ok true) :
    report.exitCode = 1 := by
  cases hattempts with
  | refused hfiles hcode => exact hcode
  | written hready hnew hkeeps hplace hcontent hothers hoctets hcode => exact absurd hheld hnew

/-- A file that was not there is the configuration, and the command succeeded. -/
theorem isOld_or_created
    (hattempts : Attempts files target report) {place : Location} {content : List UInt8}
    (hfile : report.files.at? place = some (.file content)) :
    files.at? place = some (.file content) ∨
      report.exitCode = 0 ∧ files.holds target ≠ .ok true ∧
        report.files.locate target = .ok place := by
  cases hattempts with
  | refused hfiles hcode => exact .inl (hfiles.isOld place content hfile)
  | @written ready found octets hready hnew hkeeps hplace hcontent hothers hoctets hcode =>
      by_cases hsame : place = found
      · exact .inr ⟨hcode, hnew, hsame ▸ hplace⟩
      · rw [hothers place hsame] at hfile
        exact .inl (hready.isOld place content hfile)

/-- After a success the standard configuration is where it belongs. -/
theorem entry_of_exitCode_eq_zero
    (hattempts : Attempts files target report) (hcode : report.exitCode = 0) :
    ∃ octets, Utf8.encode? standardText = some octets ∧
      report.files.entry target = .ok (.file octets) := by
  cases hattempts with
  | refused hfiles hfailed =>
      rw [hfailed] at hcode
      cases hcode
  | @written ready found octets hready hnew hkeeps hplace hcontent hothers hoctets hcode =>
      exact ⟨octets, hoctets, FileTree.entry_eq_ok_iff.mpr ⟨found, hplace, hcontent⟩⟩

end Attempts

/-! ## The standard configuration -/

theorem ofText_standardText [Machine] : Config.ofText standardText = .ok Config.standard := by
  have htidy : Json.IsTidy 1 (.object
      (Json.field "default_path" (.text Locator.defaultPath) ++
        Json.field "namespace" (.text "default") ++
        Json.field "log_level" (.text Config.standard.logLevel.name) ++
        Json.field "env_file" .null)) := by
    refine .object (by decide) ?_
    simp only [Json.field, List.forall_mem_append, List.forall_mem_singleton]
    exact ⟨⟨⟨.text _, .text _⟩, .text _⟩, .null⟩
  rw [Config.ofText, Config.documentOf, standardText,
    Yaml.read_write htidy (by decide) (by decide)]
  rfl

theorem ofContent_of_standardText [Machine]
    {octets : List UInt8} (hoctets : Utf8.encode? standardText = some octets) :
    Config.ofContent octets = .ok Config.standard := by
  have hdecode : ∃ octets, Utf8.encode? standardText = some octets ∧
      Utf8.decode octets = .ok standardText :=
    ⟨_, rfl, by decide +kernel⟩
  have hbreaks : standardText.unifyLineBreaks = standardText := by
    decide +kernel
  obtain ⟨found, hfound, hdecode⟩ := hdecode
  cases hfound.symm.trans hoctets
  simp only [Config.ofContent, hdecode, Except.mapError, bind, Except.bind, hbreaks,
    ofText_standardText]

/-- Where the standard configuration stands it is loaded, unless the level is overridden. -/
theorem load_of_standardText [Machine]
    {host : Host} {home : Path} {octets : List UInt8} (hhome : Config.home host = .ok home)
    (hoctets : Utf8.encode? standardText = some octets)
    (hentry : host.files.entry (home.append [Config.fileName]) = .ok (.file octets))
    (hlevel : host.environment.get? Config.levelVariable = none) :
    (Config.load host).outcome = .ok (Config.standard, host.environment) := by
  have hpath : Config.path host = .ok (home.append [Config.fileName]) := by
    rw [Config.path, hhome]
    rfl
  have hfilled : Config.filled? host.environment Config.levelVariable = none := by
    rw [Config.filled?, hlevel]
    rfl
  have hread : Config.readFile host.files (home.append [Config.fileName]) =
      .ok Config.standard :=
    (Config.readFile_of_entry hentry).trans (ofContent_of_standardText hoctets)
  rw [Config.load_of_path hpath, Config.outcome_loadFile_of_plain hfilled, hread]
  · rfl
  · rw [hread]
    rintro found ⟨⟩
    rfl

/-! ## Sessions -/

/-- A command on a manifest, or an `init` that is not forced. -/
inductive Errand where
  | validate (manifest : Text)
  | «show» (manifest : Text) (json : Bool)
  | status (manifest : Text)
  | init

/-- The command of an errand. -/
def Errand.name : Errand → Name
  | .validate _ => .validate
  | .show _ _ => .show
  | .status _ => .status
  | .init => .init

/-- What the command of an errand is given. -/
def Errand.given : Errand → List Text
  | .validate manifest | .status manifest | .show manifest false => [manifest]
  | .show manifest true => [manifest, Text.ofString Flag.json.longName]
  | .init => []

/-- The arguments of a command. -/
def Errand.arguments : Errand → List Text
  | .validate manifest => [Text.ofString Name.validate.text, manifest]
  | .show manifest json =>
    [Text.ofString Name.show.text, manifest] ++
      if json then [Text.ofString Flag.json.longName] else []
  | .status manifest => [Text.ofString Name.status.text, manifest]
  | .init => [Text.ofString Name.init.text]

/-- A command of a session, with the process in which it is run. -/
structure Visit where
  errand : Errand
  verbose : Bool
  environment : Variables
  users : Users

namespace Visit

/-- The arguments of the program. -/
def arguments (v : Visit) : List Text :=
  (if v.verbose then [Text.ofString "-v"] else []) ++ v.errand.arguments

/-- The report of a command on the files that it finds. -/
def report [Machine] (v : Visit) (files : FileTree) : Report :=
  run ⟨files, v.environment, v.users⟩ v.arguments

end Visit

/-- The files after the commands of a session. -/
def filesAfter [Machine] (files : FileTree) (visits : List Visit) : FileTree :=
  visits.foldl (fun files v => (v.report files).files) files

theorem filesAfter_append [Machine] (files : FileTree) (visits more : List Visit) :
    filesAfter files (visits ++ more) = filesAfter (filesAfter files visits) more := by
  rw [filesAfter, List.foldl_append, filesAfter, filesAfter]

/-- The directory of the configuration is named by a path that can be printed and holds no
tilde, for every command. -/
structure IsAtHome (home : Text) (visits : List Visit) : Prop where
  filled : home ≠ []
  noTilde : Path.tilde ∉ home
  printable : home.hasSurrogate = false
  named : ∀ v ∈ visits, v.environment.get? Config.homeVariable = some home

theorem Visit.invocation_eq (v : Visit) :
    invocation v.arguments = .command v.verbose v.errand.name v.errand.given := by
  obtain ⟨errand, verbose, environment, users⟩ := v
  cases errand with
  | validate manifest | status manifest | init => cases verbose <;> rfl
  | «show» manifest json => cases json <;> cases verbose <;> rfl

theorem invocation_arguments (v : Visit) :
    ∃ name rest, invocation v.arguments = .command v.verbose name rest ∧
      (v.errand = .init ∧ name = .init ∧ rest = [] ∨ v.errand ≠ .init ∧ name ≠ .init) := by
  refine ⟨_, _, v.invocation_eq, ?_⟩
  cases v.errand with
  | init => exact .inl ⟨rfl, rfl, rfl⟩
  | validate manifest | status manifest | «show» manifest json =>
      exact .inr ⟨Errand.noConfusion, Name.noConfusion⟩

/-- A command on a manifest changes no file. -/
theorem Visit.files_report [Machine]
    {v : Visit} (hother : v.errand ≠ .init) (files : FileTree) :
    (v.report files).files = files := by
  obtain ⟨name, rest, hinvocation, hname⟩ := invocation_arguments v
  rcases hname with ⟨hinit, -⟩ | ⟨-, hname⟩
  · exact absurd hinit hother
  · obtain ⟨writes, report, hrun, hends⟩ :=
      exists_run_eq_after ⟨files, v.environment, v.users⟩ hinvocation
    rw [Visit.report, hrun]
    rcases hends with ⟨hfiles, -⟩ | ⟨config, later, -, hperform⟩
    · exact hfiles
    · rw [hperform]
      exact files_perform (request_ne_init hname rest) config v.verbose

namespace IsAtHome

variable {home : Text} {visits : List Visit} {v : Visit}

theorem home_eq_ok
    (hhome : IsAtHome home visits) (host : Host)
    (hnamed : host.environment.get? Config.homeVariable = some home) :
    Config.home host = .ok (Path.ofText home) :=
  Config.home_eq_ok hnamed hhome.filled hhome.noTilde

theorem attempts_report [Machine]
    (hhome : IsAtHome home visits) (hv : v ∈ visits) (hinit : v.errand = .init)
    (files : FileTree) :
    Attempts files ((Path.ofText home).append [Config.fileName]) (v.report files) := by
  obtain ⟨name, rest, hinvocation, hname⟩ := invocation_arguments v
  rcases hname with ⟨-, rfl, rfl⟩ | ⟨hother, -⟩
  · obtain ⟨writes, report, hrun, hends⟩ :=
      exists_run_eq_after ⟨files, v.environment, v.users⟩ hinvocation
    rw [Visit.report, hrun]
    rcases hends with ⟨hfiles, hcode⟩ | ⟨config, later, hlater, hperform⟩
    · refine Attempts.after (.refused ?_ hcode) writes
      rw [hfiles]
      exact .refl files
    · rw [hperform]
      refine Attempts.after ?_ writes
      have hnamed : later.get? Config.homeVariable = some home :=
        hlater _ _ (hhome.named v hv)
      exact attempts_setUp (hhome.home_eq_ok ⟨files, later, v.users⟩ hnamed)
        (Path.hasSurrogate_text_append hhome.printable (by decide))
  · exact absurd hinit hother

theorem keeps_report [Machine]
    (hhome : IsAtHome home visits) (hv : v ∈ visits) (files : FileTree) :
    files.Keeps (v.report files).files := by
  by_cases hinit : v.errand = .init
  · exact (hhome.attempts_report hv hinit files).keeps
  · rw [v.files_report hinit]
    exact .refl files

/-- What stands somewhere during a session stays to its end. -/
theorem keeps_filesAfter [Machine]
    (hhome : IsAtHome home visits) {part : List Visit} (hpart : ∀ v ∈ part, v ∈ visits)
    (files : FileTree) : files.Keeps (filesAfter files part) := by
  induction part generalizing files with
  | nil => exact .refl files
  | cons v rest ih =>
      have hrest := ih (fun w hw => hpart w (List.mem_cons_of_mem _ hw)) (v.report files).files
      exact (hhome.keeps_report (hpart v List.mem_cons_self) files).trans hrest

/-- A configuration is there that was there from the start or was made on the way. -/
theorem holds_filesAfter [Machine]
    (hhome : IsAtHome home visits) {part : List Visit} (hpart : ∀ v ∈ part, v ∈ visits)
    {files : FileTree}
    (hearlier : files.holds ((Path.ofText home).append [Config.fileName]) = .ok true ∨
      ∃ early w late, part = early ++ w :: late ∧ w.errand = .init ∧
        (w.report (filesAfter files early)).exitCode = 0) :
    (filesAfter files part).holds ((Path.ofText home).append [Config.fileName]) = .ok true := by
  rcases hearlier with hstart | ⟨early, w, late, rfl, hw, hcode⟩
  · exact FileTree.holds_of_keeps (hhome.keeps_filesAfter hpart files) hstart
  · have hwmem : w ∈ visits := hpart w (by simp)
    obtain ⟨octets, -, hentry⟩ :=
      (hhome.attempts_report hwmem hw (filesAfter files early)).entry_of_exitCode_eq_zero hcode
    have hlate : ∀ x ∈ late, x ∈ visits := fun x hx => hpart x (by simp [hx])
    rw [filesAfter_append]
    exact FileTree.holds_of_keeps (hhome.keeps_filesAfter hlate _)
      (FileTree.holds_eq_true_iff.mpr ⟨_, hentry⟩)

/-- The settings that a command has made are loaded at any later time of the session. -/
theorem load_filesAfter [Machine]
    (hhome : IsAtHome home visits) (hv : v ∈ visits) (hinit : v.errand = .init)
    {files : FileTree} (hcode : (v.report files).exitCode = 0) {part : List Visit}
    (hpart : ∀ w ∈ part, w ∈ visits) {host : Host}
    (hfiles : host.files = filesAfter (v.report files).files part)
    (hnamed : host.environment.get? Config.homeVariable = some home)
    (hlevel : host.environment.get? Config.levelVariable = none) :
    (Config.load host).outcome = .ok (Config.standard, host.environment) := by
  obtain ⟨octets, hoctets, hentry⟩ :=
    (hhome.attempts_report hv hinit files).entry_of_exitCode_eq_zero hcode
  refine load_of_standardText (hhome.home_eq_ok host hnamed) hoctets ?_ hlevel
  rw [hfiles]
  exact FileTree.entry_of_keeps (hhome.keeps_filesAfter hpart _) hentry

end IsAtHome

/-- At every command of a session whose directory is fixed, all files stay as they were at any
time before.  A file is new only as the configuration, made by an `init` that succeeds where
nothing was; where there is a configuration from the start, or from an `init` that succeeded,
an `init` fails.  After one that succeeds, and from then on, the standard settings are loaded
unless the level is overridden. -/
theorem files_of_session [Machine]
    {home : Text} {visits before after : List Visit} {v : Visit} (hhome : IsAtHome home visits)
    (hvisits : visits = before ++ v :: after) (files : FileTree) :
    let target := (Path.ofText home).append [Config.fileName]
    let found := filesAfter files before
    let report := v.report found
    (∀ early late, before = early ++ late → (filesAfter files early).Keeps report.files) ∧
      (∀ place content, report.files.at? place = some (.file content) →
        found.at? place = some (.file content) ∨
          v.errand = .init ∧ report.exitCode = 0 ∧ found.holds target ≠ .ok true ∧
            report.files.locate target = .ok place) ∧
      (v.errand = .init →
        (files.holds target = .ok true ∨ ∃ early w late, before = early ++ w :: late ∧
          w.errand = .init ∧ (w.report (filesAfter files early)).exitCode = 0) →
        report.exitCode = 1) ∧
      (v.errand = .init → report.exitCode = 0 → ∀ more late, after = more ++ late →
        ∀ host : Host, host.files = filesAfter report.files more →
          host.environment.get? Config.homeVariable = some home →
          host.environment.get? Config.levelVariable = none →
          (Config.load host).outcome = .ok (Config.standard, host.environment)) := by
  intro target found report
  have hv : v ∈ visits := by
    simp [hvisits]
  have hbefore : ∀ w ∈ before, w ∈ visits := by
    intro w hw
    simp [hvisits, hw]
  refine ⟨?_, ?_, ?_, ?_⟩
  · intro early late hsplit
    have hfound : found = filesAfter (filesAfter files early) late := by
      rw [← filesAfter_append, ← hsplit]
    have hlater : ∀ w ∈ late, w ∈ visits := by
      intro w hw
      exact hbefore w (hsplit ▸ List.mem_append_right early hw)
    have hlate := hhome.keeps_filesAfter hlater (filesAfter files early)
    rw [← hfound] at hlate
    exact hlate.trans (hhome.keeps_report hv found)
  · intro place content hfile
    by_cases hinit : v.errand = .init
    · rcases (hhome.attempts_report hv hinit found).isOld_or_created hfile with hold | hnew
      · exact .inl hold
      · exact .inr ⟨hinit, hnew⟩
    · rw [show report.files = found from v.files_report hinit found] at hfile
      exact .inl hfile
  · intro hinit hearlier
    have hheld : found.holds target = .ok true := hhome.holds_filesAfter hbefore hearlier
    exact (hhome.attempts_report hv hinit found).exitCode_eq_one hheld
  · intro hinit hcode more late hsplit host hfiles hnamed hlevel
    have hmore : ∀ w ∈ more, w ∈ visits := by
      intro w hw
      simp [hvisits, hsplit, hw]
    exact hhome.load_filesAfter hv hinit hcode hmore hfiles hnamed hlevel

/-- A process of someone whose configuration is in a directory. -/
def visitAt (home : Text) (errand : Errand) : Visit :=
  ⟨errand, false, [(Config.homeVariable, home)], ⟨Text.ofString "/root", []⟩⟩

/-- The second of two commands that make a configuration fails. -/
theorem files_of_session_twice :
    IsAtHome (Text.ofString "a/b")
        [visitAt (Text.ofString "a/b") .init,
          visitAt (Text.ofString "a/b") (.show (Text.ofString "m.yaml") true),
          visitAt (Text.ofString "a/b") .init] ∧
      ((visitAt (Text.ofString "a/b") .init).report ⟨[], []⟩).exitCode = 0 ∧
      ((visitAt (Text.ofString "a/b") .init).report
        (filesAfter ⟨[], []⟩ [visitAt (Text.ofString "a/b") .init,
          visitAt (Text.ofString "a/b") (.show (Text.ofString "m.yaml") true)])).exitCode = 1 := by
  have hhome : IsAtHome (Text.ofString "a/b")
      [visitAt (Text.ofString "a/b") .init,
        visitAt (Text.ofString "a/b") (.show (Text.ofString "m.yaml") true),
        visitAt (Text.ofString "a/b") .init] :=
    ⟨by decide, by decide, by decide, by decide⟩
  have hfirst : ((visitAt (Text.ofString "a/b") .init).report ⟨[], []⟩).exitCode = 0 := by
    decide +kernel
  have hall := @files_of_session _ _ _ [visitAt (Text.ofString "a/b") .init,
    visitAt (Text.ofString "a/b") (.show (Text.ofString "m.yaml") true)] [] _ hhome rfl ⟨[], []⟩
  exact ⟨hhome, hfirst, hall.2.2.1 rfl (.inr ⟨[], _, _, rfl, rfl, hfirst⟩)⟩

/-- A directory whose path has an octet that is no text. -/
def unprintableHome : Text :=
  [.char 'h', .surrogate 0x480]

/-- Where the path of the configuration cannot be printed, the command that made it fails. -/
theorem created_by_failed_init :
    unprintableHome ≠ [] ∧ Path.tilde ∉ unprintableHome ∧
      (visitAt unprintableHome .init).environment.get? Config.homeVariable =
        some unprintableHome ∧
      ((visitAt unprintableHome .init).report ⟨[], []⟩).exitCode = 1 ∧
      ((visitAt unprintableHome .init).report ⟨[], []⟩).files.at?
        [unprintableHome, Config.fileName] = (Utf8.encode? standardText).map .file := by
  refine ⟨by decide, by decide, by decide, ?_, ?_⟩
  · decide +kernel
  · decide +kernel

end Command
end ActorManifest
