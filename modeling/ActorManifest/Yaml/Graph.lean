import ActorManifest.Yaml.Node

/-!
# Graphs of nodes

The nodes of a text are numbered in the order in which they begin, and every part of a
node is given by its number.  A reference has the number of the node with its anchor, so a
node that holds itself needs no special form.
-/

namespace ActorManifest
namespace Yaml

/-- A node whose parts are given by their numbers. -/
inductive Cell where
  | scalar (tag : Tag) (content : Text)
  | sequence (tag : Tag) (items : List Nat)
  | mapping (tag : Tag) (entries : List (Nat × Nat))

namespace Cell

/-- The tag of a node. -/
def tag : Cell → Tag
  | .scalar tag _ => tag
  | .sequence tag _ => tag
  | .mapping tag _ => tag

/-- The node with another tag. -/
def withTag (tag : Tag) : Cell → Cell
  | .scalar _ content => .scalar tag content
  | .sequence _ items => .sequence tag items
  | .mapping _ entries => .mapping tag entries

/-- The entries of a mapping; no other node has any. -/
def entries : Cell → List (Nat × Nat)
  | .mapping _ entries => entries
  | _ => []

/-- The mapping with other entries. -/
def withEntries (entries : List (Nat × Nat)) : Cell → Cell
  | .mapping tag _ => .mapping tag entries
  | cell => cell

end Cell

/-- The nodes of a text by their numbers. -/
structure Graph where
  cells : Array Cell

namespace Graph

/-- The node with a number. -/
def cell (g : Graph) (number : Nat) : Cell :=
  g.cells.getD number (.scalar .null [])

/-- The tag of a node. -/
def tag (g : Graph) (number : Nat) : Tag :=
  (g.cell number).tag

/-- The entries of a mapping. -/
def entries (g : Graph) (number : Nat) : List (Nat × Nat) :=
  (g.cell number).entries

/-- The graph with another node under a number. -/
def put (g : Graph) (number : Nat) (cell : Cell) : Graph :=
  ⟨g.cells.setIfInBounds number cell⟩

/-- The graph with other entries in a mapping. -/
def putEntries (g : Graph) (number : Nat) (entries : List (Nat × Nat)) : Graph :=
  g.put number ((g.cell number).withEntries entries)

/-- Whether an entry asks for the entries of other mappings. -/
def asksForMerge (g : Graph) (entry : Nat × Nat) : Bool :=
  g.tag entry.1 = .merge

/-- The number of entries of all mappings that ask for the entries of other mappings. -/
def mergeCount (g : Graph) : Nat :=
  g.cells.foldl (fun count cell => count + cell.entries.countP g.asksForMerge) 0

end Graph

/-- The nodes numbered so far, and the numbers of those that have an anchor. -/
structure Numbering where
  graph : Graph
  anchors : List (Text × Nat)

namespace Numbering

/-- The numbering without nodes. -/
def empty : Numbering := ⟨⟨#[]⟩, []⟩

/-- The number that the next node gets. -/
def next (n : Numbering) : Nat :=
  n.graph.cells.size

/-- The numbering with one more node. -/
def push (n : Numbering) (anchor : Option Text) (cell : Cell) : Numbering where
  anchors := match anchor with
    | none => n.anchors
    | some name => (name, n.graph.cells.size) :: n.anchors
  graph := ⟨n.graph.cells.push cell⟩

/-- The numbering with another node under a number. -/
def put (n : Numbering) (number : Nat) (cell : Cell) : Numbering :=
  { n with graph := n.graph.put number cell }

mutual

/-- The number of a node, once it and its parts are numbered. -/
def add (n : Numbering) : Node → Nat × Numbering
  | .scalar anchor tag content => (n.next, n.push anchor (.scalar tag content))
  | .sequence anchor tag items =>
    let number := n.next
    let (parts, n) := addItems (n.push anchor (.sequence tag [])) items
    (number, n.put number (.sequence tag parts))
  | .mapping anchor tag entries =>
    let number := n.next
    let (parts, n) := addEntries (n.push anchor (.mapping tag [])) entries
    (number, n.put number (.mapping tag parts))
  | .reference name => ((n.anchors.lookup name).getD 0, n)

/-- The numbers of the items of a sequence. -/
def addItems (n : Numbering) : List Node → List Nat × Numbering
  | [] => ([], n)
  | item :: items =>
    let (first, n) := add n item
    let (others, n) := addItems n items
    (first :: others, n)

/-- The numbers of the keys and values of a mapping. -/
def addEntries (n : Numbering) : List (Node × Node) → List (Nat × Nat) × Numbering
  | [] => ([], n)
  | (key, value) :: entries =>
    let (key, n) := add n key
    let (value, n) := add n value
    let (others, n) := addEntries n entries
    ((key, value) :: others, n)

end

end Numbering

/-- The graph of a node, and the number of the node in it. -/
def Graph.ofNode (root : Node) : Nat × Graph :=
  let (number, n) := Numbering.empty.add root
  (number, n.graph)

end Yaml
end ActorManifest
