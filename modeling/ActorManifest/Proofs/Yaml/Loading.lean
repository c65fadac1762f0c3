import ActorManifest.Proofs.Document.Short
import ActorManifest.Proofs.Entries
import ActorManifest.Proofs.Yaml.Sound
import ActorManifest.Yaml.Loader

/-!
# Loading sound nodes

No step of loading finds a long number in a sound graph, and each step that gives up does so
for a fault of syntax.  So the document of a sound node has no long number.
-/

namespace ActorManifest
namespace Yaml

/-- A scalar that is no long number, or a collection. -/
def Value.IsShort : Value → Prop
  | .scalar s => s.IsShort
  | .collection _ => True

/-- The scalars that a collection holds are no long numbers. -/
def Content.IsShort : Content → Prop
  | .list items => ∀ item ∈ items, item.IsShort
  | .pairs items => ∀ item ∈ items, item.1.IsShort ∧ item.2.IsShort
  | .set members => ∀ member ∈ members, member.IsShort
  | .mapping entries => ∀ entry ∈ entries, entry.1.IsShort ∧ entry.2.IsShort

/-- All that is known of some things is good. -/
def KnowsOnly {α : Type} (good : α → Prop) (known : Array (Option α)) : Prop :=
  ∀ a, some a ∈ known → good a

namespace KnowsOnly

variable {α : Type} {good : α → Prop} {known : Array (Option α)} {a : α} {number : Nat}

theorem replicate (size : Nat) : KnowsOnly good (Array.replicate size none) := by
  intro a ha
  cases Array.eq_of_mem_replicate ha

theorem set (hknown : KnowsOnly good known) (hgood : good a) :
    KnowsOnly good (known.setIfInBounds number (some a)) := by
  intro b hb
  rcases Array.mem_or_eq_of_mem_setIfInBounds hb with hb | heq
  · exact hknown b hb
  · cases heq
    exact hgood

theorem getD (hknown : KnowsOnly good known) (ha : known.getD number none = some a) : good a := by
  refine hknown a ?_
  unfold Array.getD at ha
  split at ha
  · exact ha ▸ Array.getElem_mem _
  · cases ha

end KnowsOnly

/-- The contents that are known hold no long numbers. -/
def Contents.IsShort (contents : Contents) : Prop :=
  KnowsOnly Content.IsShort contents

namespace Loading

/-- The graph is sound, and what is loaded of it holds no long numbers. -/
structure IsSound (l : Loading) : Prop where
  graph : l.graph.IsSound
  values : KnowsOnly Value.IsShort l.values
  contents : Contents.IsShort l.contents

variable {l : Loading}

/-- From a sound state, the step gives something good and a sound state, or gives up for a
fault of syntax. -/
def Keeps {α : Type} (good : α → Prop) (step : Step α) : Prop :=
  ∀ l : Loading, l.IsSound → Settles (fun p => good p.1 ∧ p.2.IsSound) (step.run l)

namespace Keeps

variable {α β : Type} {good : α → Prop} {next : β → Prop} {step : Step α}

theorem pure {a : α} (ha : good a) : Keeps good (Pure.pure a) :=
  fun _ hl => .done ⟨ha, hl⟩

theorem throw {fault : Fault} (hsyn : fault.isSyntax = true) :
    Keeps good (MonadExcept.throw fault : Step α) :=
  fun _ _ => .flawed hsyn

theorem get : Keeps IsSound (MonadState.get : Step Loading) :=
  fun _ hl => .done ⟨hl, hl⟩

theorem set (hl : l.IsSound) : Keeps (fun _ => True) (MonadStateOf.set l : Step PUnit) :=
  fun _ _ => .done ⟨trivial, hl⟩

theorem bind
    {f : α → Step β} (hfirst : Keeps good step) (hsecond : ∀ a, good a → Keeps next (f a)) :
    Keeps next (step >>= f) :=
  fun l hl => (hfirst l hl).bind fun p hp => hsecond p.1 hp.1 p.2 hp.2

theorem mapM {f : β → Step α} {items : List β}
    (hitems : ∀ item ∈ items, Keeps good (f item)) :
    Keeps (fun done : List α => ∀ a ∈ done, good a) (items.mapM f) :=
  forall_mapM Keeps pure bind hitems

end Keeps

/-! ## What nodes stand for -/

end Loading

/-! ## Documents of values -/

/-- The documents of the trees hold no long numbers. -/
def Trees.IsShort (trees : Trees) : Prop :=
  KnowsOnly Document.IsShort trees

/-- The document of the part holds no long numbers. -/
def Part.IsShort (p : Part) : Prop :=
  p.document.IsShort

namespace Trees

/-- From trees without long numbers, the step gives something good and such trees. -/
def Keeps {α : Type} (good : α → Prop) (step : StateM Trees α) : Prop :=
  ∀ trees : Trees, trees.IsShort → good (step.run trees).1 ∧ Trees.IsShort (step.run trees).2

namespace Keeps

variable {α β : Type} {good : α → Prop} {next : β → Prop} {step : StateM Trees α}

theorem pure {a : α} (ha : good a) : Keeps good (Pure.pure a) :=
  fun _ htrees => ⟨ha, htrees⟩

theorem get : Keeps IsShort (MonadState.get : StateM Trees Trees) :=
  fun _ htrees => ⟨htrees, htrees⟩

theorem bind {f : α → StateM Trees β} (hfirst : Keeps good step)
    (hsecond : ∀ a, good a → Keeps next (f a)) : Keeps next (step >>= f) :=
  fun trees htrees => hsecond _ (hfirst trees htrees).1 _ (hfirst trees htrees).2

theorem mapM {f : β → StateM Trees α} {items : List β}
    (hitems : ∀ item ∈ items, Keeps good (f item)) :
    Keeps (fun done : List α => ∀ a ∈ done, good a) (items.mapM f) :=
  forall_mapM Keeps pure bind hitems

end Keeps

end Trees

/-- A text is read as the document of the node that its tokens come together to. -/
theorem read_of_tokens [Machine]
    {t : Text} {d : Document} (tokens : List Token) (root : Node)
    (hallowed : t.all isAllowed = true) (htokens : tokensOf t = (tokens, none))
    (hnode : Node.ofTokens tokens none = .ok (some root)) (hdocument : root.document = .ok d) :
    read t = .ok d := by
  simp only [read, hallowed, htokens, hnode, hdocument, Bool.not_true, Bool.false_eq_true,
    if_false, bind, Except.bind]

end Yaml
end ActorManifest
