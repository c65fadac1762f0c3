import ActorManifest.Fields
import ActorManifest.Status.Phase
import ActorManifest.Status.Reason

/-!
# Conditions

A condition asserts or retracts one phase and says why and since when.  Its time is kept
to the microsecond, and its wire form holds whole seconds of universal time, which not
every time has.
-/

namespace ActorManifest

/-- An assertion about one phase. -/
structure Condition where
  phase : Phase
  asserted : Bool
  reason : Text
  message : Text
  since : Timestamp
  generation : Option Int
deriving DecidableEq

/-- The text of an assertion or a retraction. -/
def statusText (asserted : Bool) : Text :=
  if asserted then "True" else "False"

/-- Whether a text asserts or retracts. -/
def status? (t : Text) : Option Bool :=
  if t = statusText true then some true
  else if t = statusText false then some false
  else none

namespace Condition

/-- The condition that the controller writes for a phase: its reason is made canonical. -/
def write (phase : Phase) (asserted : Bool) (reason message : Text) (now : Timestamp) :
    Condition :=
  ⟨phase, asserted, Reason.canonical reason, message, now, none⟩

/-- The condition of an actor that was just created. -/
def created (now : Timestamp) : Condition :=
  write .pending true "Created" [] now

/-- The condition of an actor whose image is being built. -/
def buildStarted (now : Timestamp) : Condition :=
  write .building true "Build" [] now

/-- Whether two conditions are equal; times are compared as instants. -/
def same (a b : Condition) : Bool :=
  a.since.instant == b.since.instant && { a with since := b.since } == b

/-- The wire form of a condition, unless its time leaves the calendar in universal time. -/
def toJson? (c : Condition) : Option Json :=
  c.since.wire?.map fun since =>
    .object
      (Json.field "type" (.text c.phase.name) ++
        Json.field "status" (.text (statusText c.asserted)) ++
        Json.field "reason" (.text c.reason) ++ Json.field "message" (.text c.message) ++
        Json.field "lastTransitionTime" (.text since) ++
        Json.field? "observedGeneration" .int c.generation)

variable [Machine]

/-- The time that a document stands for. -/
def timeOf (d : Document) : Except Refusal Timestamp :=
  match d.toText with
  | .error .longNumber => .error .longTime
  | .error .deepNesting => .error .deepNesting
  | .ok t => (Timestamp.read t).mapError .badTime

/-- The status of a condition about a phase. -/
def statusOf (phase : Phase) (d : Document) : Except Refusal Bool :=
  let refuse := Except.error (shownOr d (.notStatus phase.name))
  match d with
  | .scalar (.text t) => (status? t).elim refuse .ok
  | _ => refuse

/-- A field that must be present. -/
def present (field : String) (entries : DocumentEntries) : Except Refusal Document :=
  match lookup? field entries with
  | some d => .ok d
  | none => .error (.missing .condition field)

/-- The condition that a document describes. -/
def ofDocument (d : Document) : Except Refusal Condition := do
  let entries ← entriesOf .condition d
  let phase ← present "type" entries
  let status ← present "status" entries
  let time ← present "lastTransitionTime" entries
  let since ← timeOf time
  let phase ← Phase.ofDocument phase
  let reason ← Field.textOrEmpty .condition "reason" entries
  let message ← Field.textOrEmpty .condition "message" entries
  let generation ← Field.integer? .condition "observedGeneration" entries
  let asserted ← statusOf phase status
  return ⟨phase, asserted, reason, message, since, generation⟩

end Condition
end ActorManifest
