import ActorManifest.Actor
import ActorManifest.Breakdown
import ActorManifest.Document.Order
import ActorManifest.Json.Reader
import ActorManifest.Yaml.Loader
import ActorManifest.Yaml.Writer

/-!
# Manifests

A manifest is the text of an actor in one of two syntaxes.  Reading a manifest gives a
mapping, from which the actor is read; writing an actor gives its manifest.
-/

namespace ActorManifest

/-- The syntaxes of a manifest. -/
inductive Format where
  | json
  | yaml
deriving DecidableEq

/-- The format of a name. -/
def Format.ofName? (name : Text) : Option Format :=
  if name = Text.ofString "json" then some .json
  else if name = Text.ofString "yaml" then some .yaml
  else none

/-- Why there is no manifest. -/
inductive ManifestFault where
  | unknownFormat (name : Text)
  /-- The text is not JSON; the flaw stands at a place of the text. -/
  | json (text : Text) (flaw : Json.Flaw) (place : Nat)
  | yaml (fault : Yaml.Fault)
  | notMapping
  /-- The name of a file tells no format. -/
  | unknownSuffix (name : Text)
  /-- The octets of a file are no text. -/
  | encoding (path : Path) (fault : Utf8.Fault)
  /-- A file cannot be read, for a reason that has a number. -/
  | unreadable (path : Path) (number : Nat) (phrase : String)
deriving DecidableEq

/-- The fault in words. -/
def ManifestFault.message : ManifestFault → Text
  | .unknownFormat name => Text.concat ["Unsupported manifest format: ", name]
  | .json text flaw place =>
    Text.concat ["Invalid JSON manifest: ", flaw.message text place]
  | .yaml fault => Text.concat ["Invalid YAML manifest: ", fault.phrase]
  | .notMapping => "Manifest must contain a mapping"
  | .unknownSuffix name => Text.concat ["Unsupported manifest extension: ", name]
  | .encoding path fault => Text.concat [path.text, " is not valid UTF-8: ", fault.message]
  | .unreadable path number phrase =>
    Text.concat
      ["Failed to read ", path.text, ": [Errno ", Text.ofNat number, "] ", phrase, ": ",
       path.text.quoted]

/-- Why there is no actor. -/
inductive Failure where
  | manifest (fault : ManifestFault)
  | refused (refusal : Refusal)
  | broken (cause : Breakdown)
deriving DecidableEq

namespace Failure

/-- The failure of a text that is not JSON. -/
def ofJson (text : Text) : Json.Fault → Failure
  | .malformed flaw place => .manifest (.json text flaw place)
  | .longNumber => .broken .longNumber
  | .deepNesting => .broken .deepNesting

/-- The failure of a text that is not YAML. -/
def ofYaml (fault : Yaml.Fault) : Failure :=
  if fault.isSyntax then .manifest (.yaml fault) else .broken (.yaml fault)

/-- The failure of a document that is no actor. -/
def ofRefusal : Refusal → Failure
  | .longNumber => .broken .longNumber
  | .deepNesting => .broken .deepNesting
  | refusal => .refused refusal

end Failure

namespace Manifest

variable [Machine]

/-- The document of a text in a format. -/
def document (format : Format) (text : Text) : Except Failure Document :=
  match format with
  | .json => ((Json.read text).mapError (Failure.ofJson text)).map Document.ofJson
  | .yaml => (Yaml.read text).mapError Failure.ofYaml

/-- The entries of a manifest in a format. -/
def read (format : Format) (text : Text) : Except Failure DocumentEntries := do
  match (← document format text).entries? with
  | some entries => return entries
  | none => throw (.manifest .notMapping)

/-- The entries of a manifest in a format that is given by its name. -/
def readNamed (name text : Text) : Except Failure DocumentEntries :=
  match Format.ofName? name with
  | some format => read format text
  | none => .error (.manifest (.unknownFormat name))

/-- The actor that the entries of a manifest describe. -/
def actor (entries : DocumentEntries) (space : Option Text) : Except Failure Actor :=
  (Actor.ofEntries entries space).mapError Failure.ofRefusal

/-- Whether a document mentions a name: as a key, as an item, or in its text.  No other
document can be asked. -/
def mentions? (name : Text) (d : Document) : Option Bool :=
  match d.opened with
  | .mapping entries => some (entries.any fun entry => entry.1 == .text name)
  | .list items => some (items.any fun item => item.sameKey (.text name))
  | .pair first second => some (first.sameKey (.text name) || second.sameKey (.text name))
  | .set members => some (members.any fun member => member == .text name)
  | .scalar (.text t) => some (Text.mentions name t)
  | _ => none

/-- The actor that a document describes.  One that is no mapping is refused as an actor if it
mentions what a full document has, and as a spec otherwise. -/
def actorOf (d : Document) (space : Option Text) : Except Failure Actor :=
  match d.entries?, mentions? "spec" d, mentions? "kind" d with
  | some entries, _, _ => actor entries space
  | _, some inSpec, some inKind =>
    .error (.refused (.notRecord (if inSpec || inKind then .actor else .spec)))
  | _, _, _ => .error (.broken .notKeyed)

/-- The text of the fields of an actor in a format. -/
def textOf (format : Format) (fields : List (Text × Json)) : Text :=
  match format with
  | .json => (Json.object fields).indented 0 ++ Text.ofString "\n"
  | .yaml => Yaml.write fields

/-- The fields of the text of an actor. -/
def fields (a : Actor) : Except Failure (List (Text × Json)) :=
  (a.fields?).elim (.error (.broken .timeRange)) .ok

/-- The text of an actor in a format. -/
def write (format : Format) (a : Actor) : Except Failure Text := do
  let fields ← fields a
  if (Json.object fields).allIntegers isWritable then return textOf format fields
  else throw (.broken .longNumber)

/-- The text of an actor in a format that is given by its name.  A time without a wire form
counts before the name. -/
def writeNamed (name : Text) (a : Actor) : Except Failure Text :=
  match Format.ofName? name with
  | some format => write format a
  | none => do
    let _ ← fields a
    throw (.manifest (.unknownFormat name))

end Manifest
end ActorManifest
