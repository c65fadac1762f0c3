import ActorManifest.Document.Parts
import ActorManifest.Yaml.Merge
import ActorManifest.Yaml.Node.Assembly
import ActorManifest.Yaml.Token.Lexer
import ActorManifest.Yaml.Value

/-!
# Loading YAML

A text is cut into tokens, the tokens are put together to a node, and the node is given
its value.  A scalar gets its value when it is first seen.  A collection gets its content
later, in the order in which collections are first seen: first the root, then what it
holds, then what that holds.  So the fault that counts is the first one in this order.  In
the end the contents are put together to a document.
-/

namespace ActorManifest
namespace Yaml

/-- What a node stands for: a scalar, or a collection that is known by its number. -/
inductive Value where
  | scalar (s : Scalar)
  | collection (number : Nat)

/-- What a collection holds. -/
inductive Content where
  | list (items : List Value)
  | pairs (items : List (Value × Value))
  | set (members : List Scalar)
  | mapping (entries : List (Scalar × Value))

/-- The content of each collection by its number, where it is known. -/
abbrev Contents := Array (Option Content)

/-- How far a graph is loaded. -/
structure Loading where
  graph : Graph
  values : Array (Option Value)
  contents : Contents
  /-- The collections whose content is to be read in the next round, the last one first. -/
  waiting : List Nat

variable [Machine]

namespace Loading

/-- A step of loading. -/
abbrev Step := StateT Loading (Except Fault)

/-- The start of loading a graph. -/
def start (g : Graph) : Loading :=
  ⟨g, Array.replicate g.cells.size none, Array.replicate g.cells.size none, []⟩

/-- The text that a node stands for where a scalar is asked for: a mapping stands for its
default value, and there is room for some mappings. -/
def textOf (g : Graph) : (levels : Nat) → Nat → Except Fault Text
  | 0, _ => .error .selfReference
  | levels + 1, number =>
    match g.cell number with
    | .scalar _ content => .ok content
    | .sequence _ _ => .error .wrongShape
    | .mapping _ entries =>
      match entries.find? fun entry => g.tag entry.1 = .value with
      | some (_, value) => textOf g levels value
      | none => .error .wrongShape

/-- The scalar that a node stands for by its tag. -/
def scalarOf (g : Graph) (number : Nat) : Except Fault Scalar :=
  match g.cell number, g.tag number with
  | _, .merge | _, .value | _, .unknown => .error .unknownTag
  | .scalar _ content, tag => scalarValue tag content
  | _, tag => do
    let content ← textOf g Machine.chainLevels number
    if tag = .timestamp then throw .timestampShape
    scalarValue tag content

/-- What a node stands for by its tag, whatever its shape. -/
def firstValue (g : Graph) (number : Nat) : Except Fault Value :=
  match g.tag number with
  | .seq | .map | .set | .omap | .pairs => .ok (.collection number)
  | _ => (scalarOf g number).map .scalar

/-- The state after a node is first seen. -/
def see (l : Loading) (number : Nat) (value : Value) : Loading :=
  { l with
    values := l.values.setIfInBounds number (some value)
    waiting := match value with
      | .scalar _ => l.waiting
      | .collection number => number :: l.waiting }

/-- What a node stands for; this is settled when it is first seen. -/
def value (number : Nat) : Step Value := do
  let l ← get
  match l.values.getD number none with
  | some value => return value
  | none =>
    let value ← firstValue l.graph number
    set (l.see number value)
    return value

/-- The entry of a key, which must be a scalar, and a value. -/
def entry (entry : Nat × Nat) : Step (Scalar × Value) := do
  match ← value entry.1 with
  | .collection _ => throw .collectionKey
  | .scalar key => return (key, ← value entry.2)

/-- The entries of a mapping after the merges; of entries with the same key the last one
counts, in the place of the first. -/
def entries (fuel number : Nat) : Step (List (Scalar × Value)) := do
  let l ← get
  match l.graph.cell number with
  | .mapping _ _ =>
    let graph ← l.graph.merge fuel Machine.chainLevels number
    set { l with graph }
    return Entries.ofList Scalar.sameKey (← (graph.entries number).mapM entry)
  | _ => throw .wrongShape

/-- The items of a sequence. -/
def items (number : Nat) : Step (List Nat) := do
  match (← get).graph.cell number with
  | .sequence _ items => return items
  | _ => throw .wrongShape

/-- The pair that a mapping of one entry stands for. -/
def pair (number : Nat) : Step (Value × Value) := do
  match (← get).graph.cell number with
  | .mapping _ [(first, second)] => return (← value first, ← value second)
  | _ => throw .wrongShape

/-- The content of a collection by its tag. -/
def content (fuel number : Nat) : Step Content := do
  match (← get).graph.tag number with
  | .omap | .pairs => return .pairs (← (← items number).mapM pair)
  | .map => return .mapping (← entries fuel number)
  | .set => return .set ((← entries fuel number).map Prod.fst)
  | _ => return .list (← (← items number).mapM value)

/-- Reads the content of a collection. -/
def fill (fuel number : Nat) : Step Unit := do
  let content ← content fuel number
  modify fun l => { l with contents := l.contents.setIfInBounds number (some content) }

/-- Reads the contents of some collections and then of those that were first seen on the
way.  Each collection takes one unit of fuel and so does each round. -/
def fillAll (mergeFuel : Nat) : (fuel : Nat) → List Nat → Step Unit
  | 0, _ => return ()
  | fuel + 1, number :: numbers => do
    fill mergeFuel number
    fillAll mergeFuel fuel numbers
  | fuel + 1, [] => do
    match (← get).waiting with
    | [] => return ()
    | waiting =>
      modify fun l => { l with waiting := [] }
      fillAll mergeFuel fuel waiting.reverse

/-- What a node of a graph stands for, and the contents of its collections. -/
def ofRoot (root : Nat) (g : Graph) : Except Fault (Value × Contents) := do
  let (value, l) ← (value root).run (start g)
  let (_, l) ← (fillAll g.mergeCount (2 * g.cells.size + 1) []).run l
  return (value, l.contents)

end Loading

/-- A document inside some collections. -/
structure Part where
  document : Document
  /-- The collections around it that occur in it again. -/
  loose : List Nat
  /-- Whether nothing in it holds itself or one of the collections around it. -/
  isTree : Bool

namespace Part

/-- A document without collections. -/
def ofScalar (s : Scalar) : Part :=
  ⟨.scalar s, [], true⟩

/-- A collection of parts. -/
def gather (document : Document) (parts : List Part) : Part :=
  ⟨document, (parts.flatMap loose).eraseDups, parts.all isTree⟩

/-- The part of two parts. -/
def pair (first second : Part) : Part :=
  gather (.pair first.document second.document) [first, second]

/-- The collection of a number, which becomes a knot if it occurs in itself or if something
around it does. -/
def tied (number : Nat) (p : Part) : Part :=
  if p.loose.isEmpty then p
  else ⟨.knot number p.document, p.loose.filter (· != number), false⟩

end Part

/-- The documents of the collections that are trees, by their numbers. -/
abbrev Trees := Array (Option Document)

/-- The document of a value inside some collections.  Each collection takes one unit of fuel.
A tree is built only once, however often it occurs. -/
def Value.part (contents : Contents) :
    (fuel : Nat) → (around : List Nat) → Value → StateM Trees Part
  | _, _, .scalar s => return .ofScalar s
  | 0, _, .collection number => return ⟨.again number, [number], false⟩
  | fuel + 1, around, .collection number => do
    if around.contains number then return ⟨.again number, [number], false⟩
    match (← get).getD number none with
    | some tree => return ⟨tree, [], true⟩
    | none =>
      let inside := part contents fuel (number :: around)
      let body ←
        match contents.getD number none with
        | none => pure (Part.ofScalar .null)
        | some (.set members) => pure ⟨.set members, [], true⟩
        | some (.list items) => do
          let parts ← items.mapM inside
          pure (Part.gather (.list (parts.map Part.document)) parts)
        | some (.pairs items) => do
          let parts ← items.mapM fun (first, second) => do
            return Part.pair (← inside first) (← inside second)
          pure (Part.gather (.list (parts.map Part.document)) parts)
        | some (.mapping entries) => do
          let parts ← entries.mapM fun (_, value) => inside value
          let keys := entries.map Prod.fst
          pure (Part.gather (.mapping (keys.zip (parts.map Part.document))) parts)
      let p := body.tied number
      if p.isTree then modify fun trees => trees.setIfInBounds number (some p.document)
      return p

/-- The document of a value. -/
def Value.document (contents : Contents) (v : Value) : Document :=
  ((v.part contents (contents.size + 1) []).run (Array.replicate contents.size none)).1.document

/-- The document of a node. -/
def Node.document (root : Node) : Except Fault Document := do
  let (number, graph) := Graph.ofNode root
  let (value, contents) ← Loading.ofRoot number graph
  return value.document contents

/-- The document of a YAML text; a text without a document is null. -/
def read (t : Text) : Except Fault Document :=
  if !t.all isAllowed then .error .unprintable
  else do
    let (tokens, ending) := tokensOf t
    match ← Node.ofTokens tokens ending with
    | none => return .null
    | some root => root.document

end Yaml
end ActorManifest
