import ActorManifest.Document.Basic

/-!
# The parts of a document

A document is opened by putting a knot in every place inside it where its label occurs
again.  The parts of an opened document are documents of their own: each of them can be
shown and opened without what was around it.
-/

namespace ActorManifest

/-- The entries of a mapping in a document. -/
abbrev DocumentEntries := List (Scalar × Document)

namespace Document

mutual

/-- The document with another one in place of a label. -/
def replace (label : Nat) (whole : Document) : Document → Document
  | .scalar s => .scalar s
  | .list items => .list (replaceItems label whole items)
  | .pair first second => .pair (replace label whole first) (replace label whole second)
  | .set members => .set members
  | .mapping entries => .mapping (replaceEntries label whole entries)
  | .knot inner body =>
    if inner = label then .knot inner body else .knot inner (replace label whole body)
  | .again inner => if inner = label then whole else .again inner

/-- The items of a list with a document in place of a label. -/
def replaceItems (label : Nat) (whole : Document) : List Document → List Document
  | [] => []
  | item :: items => replace label whole item :: replaceItems label whole items

/-- The entries of a mapping with a document in place of a label. -/
def replaceEntries (label : Nat) (whole : Document) :
    List (Scalar × Document) → List (Scalar × Document)
  | [] => []
  | (key, value) :: entries =>
    (key, replace label whole value) :: replaceEntries label whole entries

end

/-- The document without a knot of its own. -/
def opened : Document → Document
  | .knot label body => replace label (.knot label body) body
  | d => d

/-- The items of a list. -/
def items? (d : Document) : Option (List Document) :=
  match d.opened with
  | .list items => some items
  | _ => none

/-- The entries of a mapping. -/
def entries? (d : Document) : Option DocumentEntries :=
  match d.opened with
  | .mapping entries => some entries
  | _ => none

mutual

/-- Whether nothing in a document holds itself. -/
def isTree : Document → Bool
  | .list items => areTrees items
  | .pair first second => isTree first && isTree second
  | .mapping entries => areTreeEntries entries
  | .knot _ _ => false
  | .again _ => false
  | _ => true

/-- Whether nothing in the items of a list holds itself. -/
def areTrees : List Document → Bool
  | [] => true
  | item :: items => isTree item && areTrees items

/-- Whether nothing in the entries of a mapping holds itself. -/
def areTreeEntries : List (Scalar × Document) → Bool
  | [] => true
  | (_, value) :: entries => isTree value && areTreeEntries entries

end

mutual

/-- The number of levels of a document, a knot counting as it is written. -/
def depth : Document → Nat
  | .list items => depthOfItems items + 1
  | .pair first second => max (depth first) (depth second) + 1
  | .mapping entries => depthOfEntries entries + 1
  | .knot _ body => depth body
  | _ => 0

/-- The greatest depth among the items of a list. -/
def depthOfItems : List Document → Nat
  | [] => 0
  | item :: items => max (depth item) (depthOfItems items)

/-- The greatest depth among the values of a mapping. -/
def depthOfEntries : List (Scalar × Document) → Nat
  | [] => 0
  | (_, value) :: entries => max (depth value) (depthOfEntries entries)

end

end Document
end ActorManifest
