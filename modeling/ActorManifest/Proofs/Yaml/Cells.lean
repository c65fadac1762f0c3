import ActorManifest.Proofs.Yaml.Nodes
import ActorManifest.Yaml.Graph

/-!
# Numbering the nodes of values

The nodes of a value are numbered in the order in which they are written, so what a value holds
takes the numbers right behind the number of the value.
-/

namespace ActorManifest
namespace Yaml

/-! ## Cells of values -/

mutual

/-- The number of nodes of a value. -/
def nodeCount : Json → Nat
  | .array items => itemCount items + 1
  | .object fields => fieldCount fields + 1
  | _ => 1

/-- The number of nodes of some items. -/
def itemCount : List Json → Nat
  | [] => 0
  | item :: items => nodeCount item + itemCount items

/-- The number of nodes of some fields; each name has one. -/
def fieldCount : List (Text × Json) → Nat
  | [] => 0
  | (_, value) :: fields => nodeCount value + 1 + fieldCount fields

end

/-- The numbers of some items, where the first has the number `k`. -/
def itemNumbers (k : Nat) : List Json → List Nat
  | [] => []
  | item :: items => k :: itemNumbers (k + nodeCount item) items

/-- The numbers of the names and values of some fields, where the first name has the number `k`. -/
def fieldNumbers (k : Nat) : List (Text × Json) → List (Nat × Nat)
  | [] => []
  | (_, value) :: fields => (k, k + 1) :: fieldNumbers (k + (nodeCount value + 1)) fields

mutual

/-- The cells of a value whose node has the number `k`, in the order of their numbers. -/
def valueCells (k : Nat) : Json → List Cell
  | .null => [.scalar .null "null"]
  | .bool true => [.scalar .bool "true"]
  | .bool false => [.scalar .bool "false"]
  | .int n => [.scalar .int (Text.ofInt n)]
  | .float x => [.scalar .float (Writer.floatText x)]
  | .text t => [.scalar .str t]
  | .array items => .sequence .seq (itemNumbers (k + 1) items) :: itemCells (k + 1) items
  | .object fields => .mapping .map (fieldNumbers (k + 1) fields) :: fieldCells (k + 1) fields

/-- The cells of some items. -/
def itemCells (k : Nat) : List Json → List Cell
  | [] => []
  | item :: items => valueCells k item ++ itemCells (k + nodeCount item) items

/-- The cells of some names and values. -/
def fieldCells (k : Nat) : List (Text × Json) → List Cell
  | [] => []
  | (name, value) :: fields =>
    .scalar .str name :: (valueCells (k + 1) value ++ fieldCells (k + (nodeCount value + 1)) fields)

end

variable {depth k : Nat} {j : Json} {items : List Json} {fields : List (Text × Json)}

theorem length_itemCells
    (hitems : ∀ j ∈ items, ∀ k, (valueCells k j).length = nodeCount j) (k : Nat) :
    (itemCells k items).length = itemCount items := by
  induction items generalizing k with
  | nil => rfl
  | cons item items ih =>
      obtain ⟨hitem, hitems⟩ := List.forall_mem_cons.mp hitems
      rw [itemCells, itemCount, List.length_append, hitem, ih hitems]

theorem length_fieldCells
    (hvalues : ∀ field ∈ fields, ∀ k, (valueCells k field.2).length = nodeCount field.2) (k : Nat) :
    (fieldCells k fields).length = fieldCount fields := by
  induction fields generalizing k with
  | nil => rfl
  | cons field fields ih =>
      obtain ⟨name, value⟩ := field
      obtain ⟨hvalue, hvalues⟩ := List.forall_mem_cons.mp hvalues
      have hlength : (valueCells (k + 1) value).length = nodeCount value := hvalue (k + 1)
      rw [fieldCells, fieldCount, List.length_cons, List.length_append, hlength, ih hvalues]
      omega

/-- Each node has a cell. -/
theorem length_valueCells (htidy : j.IsTidy depth) (k : Nat) :
    (valueCells k j).length = nodeCount j := by
  induction htidy generalizing k with
  | null | int _ | text _ => rfl
  | bool b => cases b <;> rfl
  | array _ ih => rw [valueCells, nodeCount, List.length_cons, length_itemCells ih]
  | object _ _ ih => rw [valueCells, nodeCount, List.length_cons, length_fieldCells ih]

/-! ## Numbering -/

namespace Numbering

variable {n : Numbering}

/-- The numbering with more cells. -/
def extend (n : Numbering) (cells : List Cell) : Numbering :=
  { n with graph := ⟨n.graph.cells ++ cells.toArray⟩ }

theorem extend_nil (n : Numbering) : n.extend [] = n := by
  simp [extend]

theorem extend_extend (n : Numbering) (first second : List Cell) :
    (n.extend first).extend second = n.extend (first ++ second) := by
  simp [extend]

theorem next_extend (n : Numbering) (cells : List Cell) :
    (n.extend cells).next = n.next + cells.length := by
  simp [extend, next]

theorem push_eq_extend (n : Numbering) (cell : Cell) : n.push none cell = n.extend [cell] := by
  simp [push, extend]

theorem put_extend (n : Numbering) (old new : Cell) (cells : List Cell) :
    (n.extend (old :: cells)).put n.next new = n.extend (new :: cells) := by
  have hset : (n.graph.cells ++ (old :: cells).toArray).setIfInBounds n.graph.cells.size new =
      n.graph.cells ++ (new :: cells).toArray := by
    rw [← Array.toList_inj]
    simp
  rw [put, Graph.put, extend, extend, next]
  simp only [hset]

theorem addItems_itemNodes
    (hitems : ∀ j ∈ items, ∀ n : Numbering,
      n.add (valueNode j) = (n.next, n.extend (valueCells n.next j)))
    (hcounts : ∀ j ∈ items, ∀ k, (valueCells k j).length = nodeCount j) (n : Numbering) :
    n.addItems (itemNodes items) =
      (itemNumbers n.next items, n.extend (itemCells n.next items)) := by
  induction items generalizing n with
  | nil => rw [itemCells, extend_nil]; rfl
  | cons item items ih =>
      obtain ⟨hitem, hitems⟩ := List.forall_mem_cons.mp hitems
      obtain ⟨hcount, hcounts⟩ := List.forall_mem_cons.mp hcounts
      rw [itemNodes, addItems, hitem]
      dsimp only
      rw [ih hitems hcounts, next_extend, hcount, extend_extend]
      rfl

theorem addEntries_fieldNodes
    (hvalues : ∀ field ∈ fields, ∀ n : Numbering,
      n.add (valueNode field.2) = (n.next, n.extend (valueCells n.next field.2)))
    (hcounts : ∀ field ∈ fields, ∀ k, (valueCells k field.2).length = nodeCount field.2)
    (n : Numbering) :
    n.addEntries (fieldNodes fields) =
      (fieldNumbers n.next fields, n.extend (fieldCells n.next fields)) := by
  induction fields generalizing n with
  | nil => rw [fieldCells, extend_nil]; rfl
  | cons field fields ih =>
      obtain ⟨name, value⟩ := field
      obtain ⟨hvalue, hvalues⟩ := List.forall_mem_cons.mp hvalues
      obtain ⟨hcount, hcounts⟩ := List.forall_mem_cons.mp hcounts
      rw [fieldNodes, addEntries, add]
      dsimp only at hvalue hcount ⊢
      rw [hvalue, ih hvalues hcounts, push_eq_extend, extend_extend, extend_extend, next_extend,
        next_extend, List.length_append, hcount]
      simp only [List.length_singleton, Nat.add_comm 1]
      rfl

/-- A value is numbered in the order of its cells. -/
theorem add_valueNode (htidy : j.IsTidy depth) (n : Numbering) :
    n.add (valueNode j) = (n.next, n.extend (valueCells n.next j)) := by
  induction htidy generalizing n with
  | null | int _ | text _ => exact Prod.ext rfl (push_eq_extend n _)
  | bool b => cases b <;> exact Prod.ext rfl (push_eq_extend n _)
  | array htidy ih =>
      -- The collection has its number before its parts have theirs, and gets its cell after them.
      have hcounts := fun j hj => length_valueCells (htidy j hj)
      rw [valueNode, add]
      dsimp only
      rw [addItems_itemNodes ih hcounts, push_eq_extend, extend_extend, next_extend]
      dsimp only
      rw [List.singleton_append, put_extend]
      rfl
  | object _ htidy ih =>
      have hcounts := fun field hfield => length_valueCells (htidy field hfield)
      rw [valueNode, add]
      dsimp only
      rw [addEntries_fieldNodes ih hcounts, push_eq_extend, extend_extend, next_extend]
      dsimp only
      rw [List.singleton_append, put_extend]
      rfl

end Numbering

/-- The graph of a value has the cells of the value. -/
theorem Graph.ofNode_valueNode (htidy : j.IsTidy depth) :
    Graph.ofNode (valueNode j) = (0, ⟨(valueCells 0 j).toArray⟩) := by
  rw [ofNode, Numbering.add_valueNode htidy]
  simp [Numbering.empty, Numbering.extend, Numbering.next]

end Yaml
end ActorManifest
