import ActorManifest.Command.Arguments
import ActorManifest.Command.Report
import ActorManifest.Command.Show
import ActorManifest.Config.Loading
import ActorManifest.Manifest.File

/-!
# Running a command

A command first loads the configuration, then understands its own arguments, and then does
its work.  Only `init` changes files: it writes a configuration in which every setting is
the standard one.
-/

namespace ActorManifest
namespace Command

/-- The version of the program. -/
def version : Text := "0.1.0"

/-- What the program says about its use. -/
def usageLines : List Text :=
  ["Usage: amp [OPTIONS] COMMAND [ARGS]...",
   "",
   "  amp - Inspect Amphitheatre actor manifests.",
   "",
   "Options:",
   "  --version      Show the version and exit.",
   "  -v, --verbose  Enable debug logging",
   "  --help         Show this message and exit.",
   "",
   "Commands:",
   "  init      Initialize amphitheatre configuration.",
   "  show      Show what a controller derives from an actor manifest.",
   "  status    Show the lifecycle conditions recorded for an actor.",
   "  validate  Validate an actor manifest."]

/-- The writes of the notices that a level lets pass. -/
def noticeWrites (level : LogLevel) (notices : List Notice) : List Write :=
  (notices.filter (Notice.passes level)).map fun notice => reported notice.line

/-- The writes of notices that come before a level is configured: the bare messages. -/
def earlyWrites (notices : List Notice) : List Write :=
  (notices.filter (Notice.passes .warning)).map fun notice => reported notice.message

/-- The report of a failure to load a manifest that was given by a text. -/
def loadFailure (files : FileTree) (manifest : Text) : Failure → Report
  | .manifest fault => failing files (Text.concat ["✗ ", manifest, ": ", fault.message])
  | .refused refusal => failing files (Text.concat ["✗ ", manifest, ": ", refusal.message])
  | .broken cause => stopped files cause

variable [Machine]

/-- The lines that a command prints about an actor. -/
def linesOf (config : Config) (name : Name) (json : Bool) (a : Actor) :
    List (Except Breakdown Text) :=
  match name with
  | .validate => (validLines a).map .ok
  | .status => (statusLines a).map .ok
  | .show | .init =>
    if json then [(derivedJson config a).map fun derived => derived.indented 0]
    else showLines config a

/-- The report of a command on the manifest that a text names. -/
def onManifest (files : FileTree) (config : Config) (level : LogLevel) (name : Name)
    (json : Bool) (manifest : Text) : Report :=
  let loaded := Manifest.load files (Path.ofText manifest) none
  let report : Report := match loaded.outcome with
    | .error failure => loadFailure files manifest failure
    | .ok actor => printing files (linesOf config name json actor)
  report.after (noticeWrites level loaded.notices)

/-- The fault of an argument that should name a file. -/
def argumentFault? (files : FileTree) (manifest : Text) : Option Ending :=
  match manifest, files.entry (Path.ofText manifest) with
  | [], _ => none
  | _, .ok .directory => some .usage
  | _, .error .nullCharacter => some (.broken (.file .nullCharacter))
  | _, .error .notEncodable => some (.broken (.file .notEncodable))
  | _, _ => none

/-- The text of a configuration in which every setting is the standard one. -/
def standardText : Text :=
  Yaml.write
    (Json.field "default_path" (.text Locator.defaultPath) ++
      Json.field "namespace" (.text "default") ++
      Json.field "log_level" (.text Config.standard.logLevel.name) ++
      Json.field "env_file" .null)

/-- The files after the directory of the configuration is made unless it exists. -/
def withHome (files : FileTree) (home : Path) : FileTree × Option FileFault :=
  match files.holds home with
  | .error fault => (files, some fault)
  | .ok true => (files, none)
  | .ok false => files.makeDirectories home

/-- The report of `init`. -/
def setUp (host : Host) (force : Bool) : Report :=
  match Config.home host with
  | .error fault => stopped host.files (.home fault)
  | .ok home =>
    match withHome host.files home with
    | (files, some fault) => stopped files (.file fault)
    | (files, none) =>
      let target := home.append [Config.fileName]
      match files.holds target with
      | .error fault => stopped files (.file fault)
      | .ok found =>
        if found && !force then
          failing files
            (Text.concat
              ["Config already exists at ", target.text, ". Use --force to overwrite."])
        else
          match Utf8.encode? standardText with
          | none => stopped files .unprintable
          | some content =>
            match files.write target content with
            | .error fault => stopped files (.file fault)
            | .ok files =>
              printing files
                [.ok (Text.concat ["Initialized amphitheatre config at ", target.text])]

/-- The report of a command with its arguments, once the configuration is loaded.  The help of a
single command is not modelled; the usage lines of the program stand for it. -/
def perform (host : Host) (config : Config) (verbose : Bool) (name : Name)
    (arguments : List Text) : Report :=
  let level := if verbose then .debug else config.logLevel
  match request name arguments with
  | .usage => misused host.files
  | .help => printing host.files (usageLines.map .ok)
  | .init force => setUp host force
  | .manifest name json manifest more =>
    match argumentFault? host.files manifest, more with
    | some ending, _ => ⟨[], ending, host.files⟩
    | none, _ :: _ => misused host.files
    | none, [] => onManifest host.files config level name json manifest

/-- The report of the program. -/
def run (host : Host) (arguments : List Text) : Report :=
  match invocation arguments with
  | .usage => misused host.files
  | .version => printing host.files [.ok (Text.concat ["amp, version ", version])]
  | .help => printing host.files (usageLines.map .ok)
  | .command verbose name arguments =>
    let loaded := Config.load host
    let report : Report := match loaded.outcome with
      | .error (.broken cause) => stopped host.files cause
      | .error (.invalid fault) =>
        failing host.files (Text.concat ["✗ Invalid config: ", fault.message])
      | .error (.missing _) => perform host Config.standard verbose name arguments
      | .ok (config, environment) =>
        perform { host with environment } config verbose name arguments
    report.after (earlyWrites loaded.notices)

/-- The file of variables that the configuration names, as far as the files are known. -/
def envFilePath? (host : Host) : Option Path := do
  let p ← (Config.path host).toOption
  let config ← (Config.readFile host.files p).toOption
  match config.envFile with
  | .scalar (.text t) => (host.expandHome (Path.ofText t)).toOption
  | _ => none

/-- The paths that a run may look at, as far as the files are known. -/
def consulted (host : Host) (arguments : List Text) : List Path :=
  (Config.path host).toOption.toList ++ (envFilePath? host).toList ++
    ((Config.load host).outcome.toOption.bind fun (_, environment) =>
      (Config.path { host with environment }).toOption).toList ++
    arguments.map Path.ofText

end Command
end ActorManifest
