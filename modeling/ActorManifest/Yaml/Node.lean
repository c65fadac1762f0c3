import ActorManifest.Yaml.Tag

/-!
# Nodes

A YAML text stands for a tree of nodes with their tags.  A node may have an anchor, and a
reference stands for the node with that anchor, which may even be one around the reference.
-/

namespace ActorManifest
namespace Yaml

/-- A node of a YAML text. -/
inductive Node where
  | scalar (anchor : Option Text) (tag : Tag) (content : Text)
  | sequence (anchor : Option Text) (tag : Tag) (items : List Node)
  | mapping (anchor : Option Text) (tag : Tag) (entries : List (Node × Node))
  | reference (name : Text)
deriving Inhabited

namespace Node

/-- The node that stands where nothing is written. -/
def missing : Node := .scalar none .null []

/-- The tag of a scalar: a plain one has the tag of its form, another one is text. -/
def scalarTag (tag : Option Text) (plain : Bool) (content : Text) : Tag :=
  match tag with
  | none => if plain then Tag.ofPlain content else .str
  | some name =>
    if name = Text.ofString "!" then Tag.ofPlain content else Tag.ofName name

/-- The tag of a collection that has `default` without one. -/
def collectionTag (default : Tag) (tag : Option Text) : Tag :=
  match tag with
  | none => default
  | some name => if name = Text.ofString "!" then default else Tag.ofName name

end Node
end Yaml
end ActorManifest
