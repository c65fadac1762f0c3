import ActorManifest.Document.Basic
import ActorManifest.Host.Basic
import ActorManifest.Yaml.Fault

/-!
# Breakdowns

Why an operation ends without a finding about its input.  The causes are not turned into
messages; each keeps what went wrong.
-/

namespace ActorManifest

/-- Why an operation ends without a finding. -/
inductive Breakdown where
  /-- A scalar has the form of its tag and no value, or a value cannot be held. -/
  | yaml (fault : Yaml.Fault)
  /-- A whole number has too many digits. -/
  | longNumber
  /-- Something is nested too deeply to be read, shown or written. -/
  | deepNesting
  /-- A time leaves the calendar in universal time. -/
  | timeRange
  /-- A file or a directory cannot be used. -/
  | file (fault : FileFault)
  /-- The octets of a file are no text. -/
  | encoding (fault : Utf8.Fault)
  /-- A home directory is not known. -/
  | home (fault : HomeFault)
  /-- A variable has a name or a value that no process can hold. -/
  | badVariable
  /-- A setting that should be a path is no text. -/
  | notPath
  /-- Two keys have no order. -/
  | keyOrder
  /-- Settings are not given by keys. -/
  | notKeyed
  /-- A value has no JSON form. -/
  | noJson
  /-- A list or a mapping holds itself and so has no JSON form. -/
  | selfReference
  /-- A text to be printed holds a lone surrogate. -/
  | unprintable
deriving DecidableEq

namespace Breakdown

/-- The breakdown where no text can be read from a file. -/
def ofRead : ReadFault → Breakdown
  | .file fault => .file fault
  | .encoding fault => .encoding fault

/-- The breakdown where a document is not shown. -/
def ofShowFault : Document.ShowFault → Breakdown
  | .longNumber => .longNumber
  | .deepNesting => .deepNesting

/-- The breakdown where a value has no JSON form. -/
def ofJsonFault : Document.JsonFault → Breakdown
  | .kind => .noJson
  | .longNumber => .longNumber
  | .selfReference => .selfReference
  | .deepNesting => .deepNesting

end Breakdown
end ActorManifest
