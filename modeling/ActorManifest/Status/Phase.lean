import ActorManifest.Document.Basic
import ActorManifest.Refusal

/-!
# Phases

The four phases of the life of an actor.  Where several are asserted at once, the one
of the highest rank is the phase of the actor.
-/

namespace ActorManifest

/-- A phase of the life of an actor. -/
inductive Phase where
  | pending
  | building
  | running
  | failed
deriving DecidableEq

namespace Phase

/-- The name of a phase. -/
def name : Phase → String
  | .pending => "Pending"
  | .building => "Building"
  | .running => "Running"
  | .failed => "Failed"

/-- All phases, the highest rank first. -/
def ranking : List Phase :=
  [.failed, .running, .building, .pending]

/-- The phase of a name. -/
def ofName? (t : Text) : Option Phase :=
  ranking.find? fun phase => Text.ofString phase.name == t

/-- The phase of a name, or its refusal. -/
def ofName (t : Text) : Except Refusal Phase :=
  match ofName? t with
  | some phase => .ok phase
  | none => .error (.unknownPhase t.quoted)

/-- The phase that a document names. -/
def ofDocument [Machine] (d : Document) : Except Refusal Phase :=
  match d with
  | .scalar (.text t) => ofName t
  | d => .error (shownOr d .unknownPhase)

end Phase
end ActorManifest
