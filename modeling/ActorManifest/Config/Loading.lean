import ActorManifest.Config.Basic
import ActorManifest.EnvFile.Variables
import ActorManifest.Yaml.Loader

/-!
# Loading the configuration

The configuration is a file in a directory that the environment may name.  It may in turn
name a file of variables, which extends the environment.  Last of all, the environment as
it then is may override the level of notices.
-/

namespace ActorManifest
namespace Config

/-- The variable that names the directory of the configuration. -/
def homeVariable : Text := "AMP_HOME"

/-- The variable that overrides the level of notices. -/
def levelVariable : Text := "AMP_LOG_LEVEL"

/-- The variable that turns files of variables off. -/
def disabledVariable : Text := "PYTHON_DOTENV_DISABLED"

/-- The values that turn files of variables off. -/
def disablingValues : List Text :=
  ["1", "TRUE", "T", "YES", "Y"]

/-- The directory of the configuration as it is written where nothing names it. -/
def standardHome : Text := "~/.config/amphitheatre"

/-- The name of the configuration in its directory. -/
def fileName : Text := "config.yaml"

/-- The value of a variable that is set and not empty. -/
def filled? (environment : Variables) (name : Text) : Option Text :=
  (environment.get? name).filter fun value => value != []

/-- The directory of the configuration. -/
def home (host : Host) : Except HomeFault Path :=
  host.expandHome (Path.ofText ((filled? host.environment homeVariable).getD standardHome))

/-- The path of the configuration. -/
def path (host : Host) : Except HomeFault Path :=
  (home host).map fun home => home.append [fileName]

variable [Machine]

/-- The document in a configuration file; whatever counts as nothing is an empty mapping. -/
def documentOf (t : Text) : Except ConfigFailure Document :=
  match Yaml.read t with
  | .error fault =>
    if fault.isSyntax then .error (.invalid (.yaml fault)) else .error (.broken (.yaml fault))
  | .ok d => .ok (if d.isEmpty then .mapping [] else d)

/-- The settings in the text of a configuration file. -/
def ofText (t : Text) : Except ConfigFailure Config := do
  let d ← documentOf t
  if d.entries?.isSome then ofDocument d else throw (.invalid .notMapping)

/-- The settings in the file at a path. -/
def readFile (files : FileTree) (p : Path) : Except ConfigFailure Config := do
  if ← (files.holds p).mapError fun fault => .broken (.file fault) then
    ofText (← (files.readText p).mapError fun fault => .broken (.ofRead fault))
  else throw (.missing p)

/-- Whether the environment turns files of variables off. -/
def envFilesDisabled (environment : Variables) : Bool :=
  (environment.get? disabledVariable).any fun value => disablingValues.contains value.upper

/-- The variables after those in the file at a path are added. -/
def extend (host : Host) (p : Path) : Noted Breakdown Variables :=
  if envFilesDisabled host.environment || !host.files.isFile p then ⟨[], .ok host.environment⟩
  else
    match host.files.readText p with
    | .error fault => ⟨[], .error (.ofRead fault)⟩
    | .ok t =>
      let statements := EnvFile.statements t
      ⟨(EnvFile.faultyLines statements).map .badStatement,
        (EnvFile.extend? host.environment statements).elim (.error .badVariable) .ok⟩

/-- The variables after the file that a setting names is added to them. -/
def applyEnvFile (host : Host) (setting : Document) : Noted Breakdown Variables :=
  if setting.isEmpty then ⟨[], .ok host.environment⟩
  else
    match setting with
    | .scalar (.text t) =>
      match host.expandHome (Path.ofText t) with
      | .error fault => ⟨[], .error (.home fault)⟩
      | .ok p =>
        match host.files.holds p with
        | .error fault => ⟨[], .error (.file fault)⟩
        | .ok false => ⟨[.envFileMissing p], .ok host.environment⟩
        | .ok true => extend host p
    | _ => ⟨[], .error .notPath⟩

/-- The settings after the environment has overridden the level of notices. -/
def override (environment : Variables) (c : Config) : Except ConfigFailure Config :=
  match filled? environment levelVariable with
  | none => .ok c
  | some value =>
    match levelOf value with
    | .ok logLevel => .ok { c with logLevel }
    | .error _ => .error (.invalid (.badOverride value))

/-- The settings in the file at a path, and the variables that they leave. -/
def loadFile (host : Host) (p : Path) : Noted ConfigFailure (Config × Variables) :=
  match readFile host.files p with
  | .error failure => ⟨[], .error failure⟩
  | .ok config =>
    let applied := applyEnvFile host config.envFile
    ⟨applied.notices, do
      let environment ← applied.outcome.mapError .broken
      return (← override environment config, environment)⟩

/-- The settings in the configuration of a host, and the variables that they leave. -/
def load (host : Host) : Noted ConfigFailure (Config × Variables) :=
  match path host with
  | .error fault => ⟨[], .error (.broken (.home fault))⟩
  | .ok p => loadFile host p

end Config
end ActorManifest
