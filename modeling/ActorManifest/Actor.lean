import ActorManifest.Json.Writer
import ActorManifest.Spec.Basic
import ActorManifest.Status.Ledger

/-!
# Actors

An actor is a spec with an identity and a ledger of conditions.  A document describes it
either in full or by its spec alone.
-/

namespace ActorManifest

/-- An actor. -/
structure Actor where
  name : Text
  spec : Spec
  space : Option Text
  generation : Option Int
  status : Ledger
deriving DecidableEq

namespace Actor

/-- The version of the schema. -/
def apiVersion : Text := "amphitheatre.app/v1"

/-- The kind of a document that describes an actor. -/
def kind : Text := "Actor"

/-- The actor of a spec alone. -/
def ofSpec (spec : Spec) : Actor :=
  ⟨spec.name, spec, none, none, .empty⟩

/-- The condition that a write stores; it carries the generation unless it has its own. -/
def stamped (a : Actor) (c : Condition) : Condition :=
  { c with generation := c.generation <|> a.generation }

/-- The actor after a condition is written. -/
def set (a : Actor) (c : Condition) : Actor :=
  { a with status := a.status.set (a.stamped c) }

/-- The actor in a given namespace unless it has one. -/
def within (a : Actor) (space : Option Text) : Actor :=
  { a with space := a.space <|> space }

/-- Whether two actors are equal. -/
def same (a b : Actor) : Bool :=
  a.name == b.name && a.spec.same b.spec && a.space == b.space &&
    a.generation == b.generation && a.status.same b.status

/-- The fields of the JSON form of an actor, unless a time has no wire form. -/
def fields? (a : Actor) : Option (List (Text × Json)) :=
  a.status.toJson?.map fun status =>
    let metadata :=
      Json.field "name" (.text a.name) ++ Json.field? "namespace" .text a.space ++
        Json.field? "generation" .int a.generation
    Json.field "apiVersion" (.text apiVersion) ++ Json.field "kind" (.text kind) ++
      Json.field "metadata" (.object metadata) ++ Json.field "spec" a.spec.toJson ++
      if a.status.conditions.isEmpty then [] else Json.field "status" status

/-- The JSON form of an actor, unless a time has no wire form. -/
def toJson? (a : Actor) : Option Json :=
  a.fields?.map .object

variable [Machine]

/-- A field that must have one value if it is present. -/
def requireText (field : String) (expected : Text) (refusal : Text → Refusal)
    (entries : DocumentEntries) : Except Refusal Unit :=
  match lookup? field entries with
  | none => .ok ()
  | some (.scalar (.text t)) => if t = expected then .ok () else .error (refusal t.quoted)
  | some d => .error (shownOr d refusal)

/-- The entries of the metadata; whatever counts as nothing stands for none. -/
def metadataOf (entries : DocumentEntries) : Except Refusal DocumentEntries :=
  match lookup? "metadata" entries with
  | none => .ok []
  | some d =>
    match d.entries? with
    | some metadata => .ok metadata
    | none => if d.isEmpty then .ok [] else .error (.notMapping .actor "metadata")

/-- The actor that a full document describes, without its status. -/
def readFrame (entries : DocumentEntries) : Except Refusal Actor := do
  requireText "kind" kind .wrongKind entries
  requireText "apiVersion" apiVersion .wrongVersion entries
  match lookup? "spec" entries with
  | none => throw (.missing .actor "spec")
  | some d =>
    let spec ← Spec.ofDocument d
    let metadata ← metadataOf entries
    let generation ← Field.integer? .actor "generation" metadata
    let name ← Field.textOrEmpty .actor "name" metadata
    let space ← Field.text? .actor "namespace" metadata
    return ⟨if name = [] then spec.name else name, spec, space, generation, .empty⟩

/-- The actor that the entries of a full document describe, together with the conditions
written before a refusal. -/
def readFull (entries : DocumentEntries) : List Condition × Except Refusal Actor :=
  match readFrame entries with
  | .error refusal => ([], .error refusal)
  | .ok actor =>
    let (conditions, status) := Ledger.read ((lookup? "status" entries).getD .null)
    (conditions, status.map fun status => { actor with status })

/-- The actor that a full document describes. -/
def ofDocument (d : Document) : Except Refusal Actor := do
  let entries ← entriesOf .actor d
  (readFull entries).2

/-- The actor that the entries of a manifest describe, in full or by a spec alone, together
with the conditions written before a refusal. -/
def readEntries (entries : DocumentEntries) : List Condition × Except Refusal Actor :=
  if (lookup? "spec" entries).isSome || (lookup? "kind" entries).isSome then readFull entries
  else ([], (Spec.ofDocument (.mapping entries)).map ofSpec)

/-- The actor that the entries of a manifest describe, in a given namespace unless the
manifest names one. -/
def ofEntries (entries : DocumentEntries) (space : Option Text) : Except Refusal Actor :=
  (readEntries entries).2.map fun actor => actor.within space

end Actor
end ActorManifest
