import ActorManifest.Proofs.Document.Short
import ActorManifest.Proofs.Outcome
import ActorManifest.Yaml.Merge
import ActorManifest.Yaml.Value

/-!
# Sound nodes

A node is sound if each of its scalars has a short value, or none by a fault of syntax, and if
no mapping has the tag of a scalar, which might make its default value such a scalar.  Then all
nodes of its graph are sound, and merging mappings keeps them so.
-/

namespace ActorManifest
namespace Yaml

/-! ## Outcomes -/

/-- The outcome is good, or it is a fault of syntax. -/
abbrev Settles {α : Type} (good : α → Prop) (outcome : Except Fault α) : Prop :=
  Yields good (fun fault => fault.isSyntax = true) outcome

/-! ## Nodes and their cells -/

/-- The scalar has a short value, or none by a fault of syntax. -/
def HasValue (tag : Tag) (content : Text) : Prop :=
  Settles Scalar.IsShort (scalarValue tag content)

/-- The tag does not ask for a scalar. -/
def Tag.IsCollection (tag : Tag) : Prop :=
  tag ∈ [.seq, .map, .set, .omap, .pairs, .merge, .unknown]

/-- The scalars of the node have values, and its mappings the tags of collections. -/
inductive Node.IsSound : Node → Prop
  | scalar {anchor : Option Text} {tag : Tag} {content : Text} (hvalue : HasValue tag content) :
      IsSound (.scalar anchor tag content)
  | sequence {anchor : Option Text} {tag : Tag} {items : List Node}
      (hitems : ∀ item ∈ items, IsSound item) : IsSound (.sequence anchor tag items)
  | mapping {anchor : Option Text} {tag : Tag} {entries : List (Node × Node)}
      (htag : tag.IsCollection) (hkeys : ∀ entry ∈ entries, IsSound entry.1)
      (hvalues : ∀ entry ∈ entries, IsSound entry.2) : IsSound (.mapping anchor tag entries)
  | reference (name : Text) : IsSound (.reference name)

/-- What a sound node is in a graph. -/
def Cell.IsSound : Cell → Prop
  | .scalar tag content => HasValue tag content
  | .sequence _ _ => True
  | .mapping tag _ => tag.IsCollection

/-- All nodes of the graph are sound. -/
def Graph.IsSound (g : Graph) : Prop :=
  ∀ cell ∈ g.cells, cell.IsSound

namespace Graph

variable {g : Graph}

end Graph

/-! ## Numbered nodes -/

namespace Numbering

variable {n : Numbering}

end Numbering

end Yaml
end ActorManifest
