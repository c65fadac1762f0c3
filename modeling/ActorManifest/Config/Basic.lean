import ActorManifest.Breakdown
import ActorManifest.Document.Order
import ActorManifest.Fields
import ActorManifest.Notice
import ActorManifest.Source.Locator
import ActorManifest.Text.Case

/-!
# Configuration

The local settings: the path and the namespace assumed where an actor gives none, the
level of notices, and a file of variables.  Each of them may be left out, and there are no
others.  Only the level is bound to certain values; a namespace must not count as nothing.
-/

namespace ActorManifest

/-- The local settings. -/
structure Config where
  defaultPath : Document
  space : Document
  logLevel : LogLevel
  envFile : Document
  spaceFilled : space.isEmpty = false

/-- Why a document holds no settings. -/
inductive ConfigFault where
  /-- Keys that no setting has, as they are shown. -/
  | unknownKeys (shown : Text)
  | badLogLevel (level : Text)
  | emptySpace
  | yaml (fault : Yaml.Fault)
  | notMapping
  /-- The level that the environment gives is none. -/
  | badOverride (level : Text)
deriving DecidableEq

/-- The fault in words. -/
def ConfigFault.message : ConfigFault → Text
  | .unknownKeys shown => Text.concat ["Unknown config keys: ", shown]
  | .badLogLevel level => Text.concat ["Invalid log_level: ", level]
  | .emptySpace => "namespace must not be empty"
  | .yaml fault => Text.concat ["Invalid YAML syntax: ", fault.phrase]
  | .notMapping => "Configuration file must contain a mapping"
  | .badOverride level => Text.concat ["Invalid AMP_LOG_LEVEL: ", level]

/-- Why there are no settings. -/
inductive ConfigFailure where
  | invalid (fault : ConfigFault)
  /-- There is no file at a path. -/
  | missing (path : Path)
  | broken (cause : Breakdown)
deriving DecidableEq

/-- What is said of a missing file. -/
def ConfigFailure.missingMessage (path : Path) : Text :=
  Text.concat ["amphitheatre config.yaml not found at ", path.text]

namespace Config

/-- The settings where nothing is configured. -/
def standard : Config :=
  ⟨.text Locator.defaultPath, .text "default", .warning, .null, rfl⟩

/-- The names of all settings. -/
def names : List String :=
  ["default_path", "namespace", "log_level", "env_file"]

/-- The settings under their names. -/
def fields (c : Config) : List (String × Document) :=
  [("default_path", c.defaultPath), ("namespace", c.space),
   ("log_level", .text c.logLevel.name), ("env_file", c.envFile)]

/-- Whether a key is the name of a setting. -/
def isKnown : Document → Bool
  | .scalar (.text t) => names.any fun name => Text.ofString name == t
  | _ => false

/-- The keys that a document gives.  A list or a set gives its members, a text its code
points, octets their numbers; nothing else but a mapping gives keys. -/
def keysOf? (d : Document) : Option (List Document) :=
  match d.opened with
  | .mapping entries => some (entries.map fun entry => .scalar entry.1)
  | .list items => if items.all Document.isKey then some (Document.distinctKeys items) else none
  | .set members => some (members.map .scalar)
  | .scalar (.text t) => some (Document.distinctKeys (t.map fun c => .text [c]))
  | .scalar (.bytes octets) =>
    some (Document.distinctKeys (octets.map fun octet => .scalar (.int octet.toNat)))
  | _ => none

variable [Machine]

/-- The refusal of keys that no setting has. -/
def refuseKeys (keys : List Document) : ConfigFailure :=
  match Document.sortKeys? keys with
  | none => .broken .keyOrder
  | some sorted =>
    match (Document.list sorted).shown with
    | .error fault => .broken (.ofShowFault fault)
    | .ok shown => .invalid (.unknownKeys shown)

/-- The level that a text names, in letters of either case. -/
def levelOf (t : Text) : Except Text LogLevel :=
  match LogLevel.ofName? t.upper with
  | some level => .ok level
  | none => .error t.upper

/-- The level that a setting names. -/
def readLevel (d : Document) : Except ConfigFailure LogLevel := do
  let t ← d.toText.mapError fun fault => .broken (.ofShowFault fault)
  (levelOf t).mapError fun level => .invalid (.badLogLevel level)

/-- The settings that the entries of a mapping give, whose keys are all known. -/
def ofEntries (entries : DocumentEntries) : Except ConfigFailure Config := do
  let setting (name : String) (default : Document) := (lookup? name entries).getD default
  let logLevel ← readLevel (setting "log_level" (.text standard.logLevel.name))
  let space := setting "namespace" standard.space
  if hspace : space.isEmpty then throw (.invalid .emptySpace)
  else
    return {
      defaultPath := setting "default_path" standard.defaultPath, space, logLevel,
      envFile := setting "env_file" standard.envFile,
      spaceFilled := Bool.eq_false_iff.2 hspace }

/-- The settings that a document gives. -/
def ofDocument (d : Document) : Except ConfigFailure Config :=
  match keysOf? d with
  | none => .error (.broken .notKeyed)
  | some keys =>
    match keys.filter fun key => !isKnown key, d.entries? with
    | [], some entries => ofEntries entries
    | [], none => .error (.broken .notKeyed)
    | unknown, _ => .error (refuseKeys unknown)

end Config
end ActorManifest
