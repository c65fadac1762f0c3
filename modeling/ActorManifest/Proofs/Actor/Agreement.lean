import ActorManifest.Actor
import ActorManifest.Proofs.Ledger.Agreement

/-!
# Runs of actors that agree

An actor changes step by step: a condition is written or removed, the generation is set, or
the spec is replaced.  Two actors agree if they differ in nothing but the part of a second of
their times.  A step takes actors that agree to actors that agree, so runs of the same steps
from actors that agree cannot be told apart by anything but such a part of a second.
-/

namespace ActorManifest
namespace Actor

/-! ## Steps -/

/-- A change of an actor. -/
inductive Step where
  /-- A condition is written; it carries the generation unless it has its own. -/
  | set (c : Condition)
  /-- The ledger changes on its own. -/
  | change (operation : Ledger.Operation)
  /-- The generation is set. -/
  | regenerate (generation : Option Int)
  /-- The spec is replaced. -/
  | respec (spec : Spec)

/-- The actor after a step. -/
def apply (a : Actor) : Step → Actor
  | .set c => a.set c
  | .change operation => { a with status := a.status.apply operation }
  | .regenerate generation => { a with generation }
  | .respec spec => { a with spec }

/-- The actor after a run. -/
def run (a : Actor) (steps : List Step) : Actor :=
  steps.foldl apply a

theorem run_append (a : Actor) (steps more : List Step) :
    a.run (steps ++ more) = (a.run steps).run more := by
  rw [run, List.foldl_append, run, run]

/-! ## Actors that agree -/

/-- Two actors that tell the same, the times of their conditions compared by whole seconds. -/
structure AgreesWith (a b : Actor) : Prop where
  name : a.name = b.name
  space : a.space = b.space
  generation : a.generation = b.generation
  spec : a.spec = b.spec
  status : a.status.AgreesWith b.status

/-- Two actors that agree and give the same answers. -/
structure LooksLike (a b : Actor) : Prop extends a.AgreesWith b where
  isAsserted : ∀ phase, a.status.isAsserted phase = b.status.isAsserted phase
  length : a.status.conditions.length = b.status.conditions.length
  phase : a.status.phase? = b.status.phase?
  buildName : a.spec.buildName = b.spec.buildName
  imageTag : a.spec.imageTag = b.spec.imageTag

theorem AgreesWith.refl (a : Actor) : a.AgreesWith a :=
  ⟨rfl, rfl, rfl, rfl, .refl a.status⟩

theorem AgreesWith.trans
    {a b c : Actor} (hab : a.AgreesWith b) (hbc : b.AgreesWith c) : a.AgreesWith c where
  name := hab.name.trans hbc.name
  space := hab.space.trans hbc.space
  generation := hab.generation.trans hbc.generation
  spec := hab.spec.trans hbc.spec
  status := hab.status.trans hbc.status

variable {a b : Actor}

theorem AgreesWith.looksLike (hagree : a.AgreesWith b) : a.LooksLike b where
  toAgreesWith := hagree
  isAsserted := Ledger.isAsserted_of_agreesWith hagree.status
  length := hagree.status.length_eq
  phase := Ledger.phase?_of_agreesWith hagree.status
  buildName := by rw [hagree.spec]
  imageTag := by rw [hagree.spec]

/-! ## Steps of actors that agree -/

theorem stamped_of_agreesWith (hagree : a.AgreesWith b) (c : Condition) :
    a.stamped c = b.stamped c := by
  rw [stamped, stamped, hagree.generation]

/-- A step takes actors that agree to actors that agree. -/
theorem apply_of_agreesWith (hagree : a.AgreesWith b) (step : Step) :
    (a.apply step).AgreesWith (b.apply step) := by
  cases step with
  | set c =>
      refine { hagree with status := ?_ }
      change (a.status.set (a.stamped c)).AgreesWith (b.status.set (b.stamped c))
      rw [stamped_of_agreesWith hagree c]
      exact Ledger.set_of_agreesWith hagree.status (.refl _)
  | change operation =>
      exact { hagree with status := Ledger.apply_of_agreesWith hagree.status operation }
  | regenerate generation => exact { hagree with generation := rfl }
  | respec spec => exact { hagree with spec := rfl }

end Actor
end ActorManifest
