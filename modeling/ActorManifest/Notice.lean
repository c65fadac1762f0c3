import ActorManifest.Host.Path
import ActorManifest.Status.Condition

/-!
# Notices

What an operation reports beside its outcome.  A notice has a level and a source, and it
is written if its level is at least the configured one.
-/

namespace ActorManifest

/-- How much a notice matters. -/
inductive LogLevel where
  | debug
  | info
  | warning
  | error
  | critical
deriving DecidableEq

namespace LogLevel

/-- The name of a level. -/
def name : LogLevel → String
  | .debug => "DEBUG"
  | .info => "INFO"
  | .warning => "WARNING"
  | .error => "ERROR"
  | .critical => "CRITICAL"

/-- All levels, the least one first. -/
def all : List LogLevel :=
  [.debug, .info, .warning, .error, .critical]

/-- The level of a name. -/
def ofName? (t : Text) : Option LogLevel :=
  all.find? fun level => Text.ofString level.name == t

/-- The place of a level among all levels. -/
def rank : LogLevel → Nat
  | .debug => 0
  | .info => 1
  | .warning => 2
  | .error => 3
  | .critical => 4

end LogLevel

/-- What an operation reports beside its outcome. -/
inductive Notice where
  /-- A condition was written to a ledger. -/
  | conditionSet (c : Condition)
  /-- An actor was read from a file. -/
  | actorLoaded (name : Text) (path : Path)
  /-- The file of variables that the configuration names does not exist. -/
  | envFileMissing (path : Path)
  /-- A statement in a file of variables is none; it begins at the given line. -/
  | badStatement (line : Nat)
deriving DecidableEq

namespace Notice

/-- The level of a notice. -/
def level : Notice → LogLevel
  | .conditionSet _ | .actorLoaded .. => .debug
  | .envFileMissing _ | .badStatement _ => .warning

/-- The part of the program that reports a notice. -/
def source : Notice → String
  | .conditionSet _ => "amphitheatre.schemas.status"
  | .actorLoaded .. => "amphitheatre.manifest"
  | .envFileMissing _ => "amphitheatre.config"
  | .badStatement _ => "dotenv.main"

/-- A notice in words. -/
def message : Notice → Text
  | .conditionSet c =>
    Text.concat
      ["Set condition ", c.phase.name, "=", statusText c.asserted, " reason=", c.reason]
  | .actorLoaded name path => Text.concat ["Loaded actor ", name, " from ", path.text]
  | .envFileMissing path => Text.concat ["env_file not found: ", path.text]
  | .badStatement line =>
    Text.concat ["python-dotenv could not parse statement starting at line ", Text.ofNat line]

/-- A notice with its level and its source. -/
def line (n : Notice) : Text :=
  Text.concat [n.level.name, " ", n.source, ": ", n.message]

/-- Whether a notice is written where a level is configured. -/
def passes (configured : LogLevel) (n : Notice) : Bool :=
  configured.rank ≤ n.level.rank

end Notice

/-- An outcome and the notices on the way to it. -/
structure Noted (ε α : Type) where
  notices : List Notice
  outcome : Except ε α

end ActorManifest
