import ActorManifest.Proofs.Yaml.Cells
import ActorManifest.Proofs.Yaml.Filling

/-!
# The documents of values

The graph of a value is regular, so it is loaded.  From the contents of its collections the
document is built in the order of the numbers: what is built of a node never needs a node in
front of it, and nothing is a knot.
-/

namespace ActorManifest
namespace Yaml

variable {depth k : Nat} {j : Json} {items : List Json} {fields : List (Text × Json)}

/-! ## Graphs that hold values -/

namespace Graph

/-- Whether the graph has some cells under consecutive numbers. -/
def Holds (g : Graph) (k : Nat) (cells : List Cell) : Prop :=
  cells <+: g.cells.toList.drop k

variable {g : Graph} {cell : Cell} {cells others : List Cell}

theorem Holds.left (hholds : g.Holds k (cells ++ others)) : g.Holds k cells :=
  (List.prefix_append _ _).trans hholds

theorem Holds.right (hholds : g.Holds k (cells ++ others)) : g.Holds (k + cells.length) others := by
  obtain ⟨rest, hrest⟩ := hholds
  refine ⟨rest, ?_⟩
  rw [← List.drop_drop, ← hrest, List.append_assoc, List.drop_left]

theorem Holds.head (hholds : g.Holds k (cell :: cells)) : k < g.cells.size ∧ g.cell k = cell := by
  obtain ⟨rest, hrest⟩ := hholds
  have hcell : g.cells[k]? = some cell := by
    rw [← Array.getElem?_toList, ← List.head?_drop, ← hrest]
    rfl
  obtain ⟨hlt, heq⟩ := Array.getElem?_eq_some_iff.mp hcell
  refine ⟨hlt, ?_⟩
  rw [Graph.cell, Array.getD_eq_getD_getElem?, hcell, Option.getD_some]

theorem Holds.tail (hholds : g.Holds k (cell :: cells)) : g.Holds (k + 1) cells := by
  rw [← List.singleton_append] at hholds
  exact hholds.right

theorem holds_cells (cells : List Cell) : Holds ⟨cells.toArray⟩ 0 cells :=
  List.prefix_rfl

theorem Holds.lt_size (hholds : g.Holds k (valueCells k j)) : k < g.cells.size := by
  obtain ⟨cell, cells, hcells⟩ : ∃ cell cells, valueCells k j = cell :: cells := by
    cases j with
    | bool b => cases b <;> exact ⟨_, _, rfl⟩
    | _ => exact ⟨_, _, rfl⟩
  rw [hcells] at hholds
  exact hholds.head.1

theorem Holds.items_cons {item : Json} (htidy : item.IsTidy depth)
    (hholds : g.Holds k (itemCells k (item :: items))) :
    g.Holds k (valueCells k item) ∧
      g.Holds (k + nodeCount item) (itemCells (k + nodeCount item) items) := by
  have hright := hholds.right
  rw [length_valueCells htidy] at hright
  exact ⟨hholds.left, hright⟩

theorem Holds.fields_cons {name : Text} {value : Json} (htidy : value.IsTidy depth)
    (hholds : g.Holds k (fieldCells k ((name, value) :: fields))) :
    g.cell k = .scalar .str name ∧ g.Holds (k + 1) (valueCells (k + 1) value) ∧
      g.Holds (k + (nodeCount value + 1)) (fieldCells (k + (nodeCount value + 1)) fields) := by
  have hright := hholds.tail.right
  rw [length_valueCells htidy, Nat.add_assoc, Nat.add_comm 1] at hright
  exact ⟨hholds.head.2, hholds.tail.left, hright⟩

theorem forall_itemNumbers (htidy : ∀ item ∈ items, item.IsTidy depth)
    (hholds : g.Holds k (itemCells k items)) :
    ∀ number ∈ itemNumbers k items, number < g.cells.size := by
  induction items generalizing k with
  | nil => exact nofun
  | cons item items ih =>
      obtain ⟨hitem, hitems⟩ := List.forall_mem_cons.mp htidy
      obtain ⟨hfirst, hrest⟩ := hholds.items_cons hitem
      exact List.forall_mem_cons.mpr ⟨hfirst.lt_size, ih hitems hrest⟩

theorem forall_fieldNumbers (htidy : ∀ field ∈ fields, field.2.IsTidy depth)
    (hholds : g.Holds k (fieldCells k fields)) :
    (∀ pair ∈ fieldNumbers k fields, (∃ name, g.cell pair.1 = .scalar .str name) ∧
      pair.1 < g.cells.size ∧ pair.2 < g.cells.size) ∧
    (fieldNumbers k fields).map (fun pair => g.scalarAt pair.1) =
      fields.map fun field => Scalar.text field.1 := by
  induction fields generalizing k with
  | nil => exact ⟨nofun, rfl⟩
  | cons field fields ih =>
      obtain ⟨name, value⟩ := field
      obtain ⟨hvalue, hvalues⟩ := List.forall_mem_cons.mp htidy
      obtain ⟨hname, hfirst, hrest⟩ := hholds.fields_cons hvalue
      obtain ⟨hall, hnames⟩ := ih hvalues hrest
      refine ⟨List.forall_mem_cons.mpr ⟨⟨⟨name, hname⟩, hholds.head.1, hfirst.lt_size⟩, hall⟩, ?_⟩
      rw [fieldNumbers, List.map_cons, List.map_cons, hnames, scalarAt_of_cell hname rfl]

theorem scalarValue_bool (b : Bool) :
    scalarValue .bool (if b then "true" else "false") = .ok (.bool b) := by
  cases b <;> decide

theorem scalarValue_int {n : Int} (hn : isWritable n = true) :
    scalarValue .int (Text.ofInt n) = .ok (.int n) :=
  congrArg (Except.map Scalar.int) (integerValue_ofInt hn)

/-- Wherever the graph holds the value, the nodes of the value are regular. -/
def IsRegularValue (g : Graph) (j : Json) : Prop :=
  ∀ k, g.Holds k (valueCells k j) → ∀ cell ∈ valueCells k j, g.IsRegularCell cell

theorem isRegularCell_of_mem_itemCells (htidy : ∀ item ∈ items, item.IsTidy depth)
    (hitems : ∀ item ∈ items, g.IsRegularValue item) (hholds : g.Holds k (itemCells k items)) :
    ∀ cell ∈ itemCells k items, g.IsRegularCell cell := by
  induction items generalizing k with
  | nil => exact nofun
  | cons item items ih =>
      obtain ⟨htidy, htidies⟩ := List.forall_mem_cons.mp htidy
      obtain ⟨hitem, hitems⟩ := List.forall_mem_cons.mp hitems
      obtain ⟨hfirst, hrest⟩ := hholds.items_cons htidy
      exact List.forall_mem_append.mpr ⟨hitem k hfirst, ih htidies hitems hrest⟩

theorem isRegularCell_of_mem_fieldCells (htidy : ∀ field ∈ fields, field.2.IsTidy depth)
    (hvalues : ∀ field ∈ fields, g.IsRegularValue field.2)
    (hholds : g.Holds k (fieldCells k fields)) :
    ∀ cell ∈ fieldCells k fields, g.IsRegularCell cell := by
  induction fields generalizing k with
  | nil => exact nofun
  | cons field fields ih =>
      obtain ⟨name, value⟩ := field
      obtain ⟨htidy, htidies⟩ := List.forall_mem_cons.mp htidy
      obtain ⟨hvalue, hvalues⟩ := List.forall_mem_cons.mp hvalues
      obtain ⟨-, hfirst, hrest⟩ := hholds.fields_cons htidy
      refine List.forall_mem_cons.mpr ⟨.scalar rfl, List.forall_mem_append.mpr ⟨?_, ?_⟩⟩
      · exact hvalue (k + 1) hfirst
      · exact ih htidies hvalues hrest

theorem isRegularValue_of_isTidy (htidy : j.IsTidy depth) : g.IsRegularValue j := by
  induction htidy with
  | null => exact fun k _ => List.forall_mem_singleton.mpr (.scalar rfl)
  | bool b =>
      intro k _
      have hvalue := scalarValue_bool b
      cases b <;> exact List.forall_mem_singleton.mpr (.scalar hvalue)
  | int hn => exact fun k _ => List.forall_mem_singleton.mpr (.scalar (scalarValue_int hn))
  | text _ => exact fun k _ => List.forall_mem_singleton.mpr (.scalar rfl)
  | array htidy ih =>
      intro k hholds
      -- The cell of the collection comes first, and behind it stand the cells of its items.
      have hnumbers := forall_itemNumbers htidy hholds.tail
      have hcells := isRegularCell_of_mem_itemCells htidy ih hholds.tail
      exact List.forall_mem_cons.mpr ⟨.sequence hnumbers, hcells⟩
  | @object _ fields hnames htidy ih =>
      intro k hholds
      obtain ⟨hall, hkeys⟩ := forall_fieldNumbers htidy hholds.tail
      have hcells := isRegularCell_of_mem_fieldCells htidy ih hholds.tail
      have hdiffer : ((fieldNumbers (k + 1) fields).map fun pair => g.scalarAt pair.1).Nodup := by
        rw [hkeys, ← Function.comp_def, ← List.map_map]
        exact hnames.map fun first second heq => Scalar.text.inj heq
      refine List.forall_mem_cons.mpr ⟨.mapping ?_ hdiffer ?_, hcells⟩
      · exact fun pair hpair => (hall pair hpair).1
      · exact fun pair hpair => (hall pair hpair).2

theorem isRegular_valueCells (htidy : j.IsTidy depth) :
    IsRegular ⟨(valueCells 0 j).toArray⟩ := by
  intro number hnumber
  have hcell : cell ⟨(valueCells 0 j).toArray⟩ number ∈ valueCells 0 j := by
    rw [cell, Array.getD_eq_getD_getElem?, Array.getElem?_eq_getElem hnumber]
    exact List.getElem_mem _
  exact isRegularValue_of_isTidy htidy 0 (holds_cells _) _ hcell

end Graph

/-! ## Parts that are trees -/

/-- A part that is a tree. -/
def Part.ofTree (d : Document) : Part :=
  ⟨d, [], true⟩

theorem Part.gather_ofTree (d : Document) (documents : List Document) :
    Part.gather d (documents.map Part.ofTree) = Part.ofTree d := by
  have hloose : (documents.map Part.ofTree).flatMap Part.loose = [] := by
    simp [Part.ofTree]
  have htrees : (documents.map Part.ofTree).all Part.isTree = true := by
    simp [Part.ofTree]
  rw [Part.gather, hloose, htrees]
  rfl

theorem Part.map_document_ofTree (documents : List Document) :
    (documents.map Part.ofTree).map Part.document = documents := by
  rw [List.map_map]
  exact List.map_id documents

/-- From trees that are known in front of a number only, the step builds something, and then
trees are known in front of another number only. -/
def Builds {α : Type} (k next : Nat) (a : α) (step : StateM Trees α) : Prop :=
  ∀ trees : Trees, (∀ i, k ≤ i → trees.getD i none = none) →
    ∃ trees' : Trees, step.run trees = (a, trees') ∧ ∀ i, next ≤ i → trees'.getD i none = none

namespace Builds

variable {α β : Type} {a : α} {b : β} {next last : Nat}

theorem pure (a : α) : Builds k k a (Pure.pure a) :=
  fun trees htrees => ⟨trees, rfl, htrees⟩

theorem of_run {step other : StateM Trees α} (hother : Builds k next a other)
    (hrun : ∀ trees : Trees, (∀ i, k ≤ i → trees.getD i none = none) →
      step.run trees = other.run trees) : Builds k next a step := by
  intro trees htrees
  rw [hrun trees htrees]
  exact hother trees htrees

theorem weaken {step : StateM Trees α} (hstep : Builds next last a step) (hle : k ≤ next) :
    Builds k last a step :=
  fun trees htrees => hstep trees fun i hi => htrees i (Nat.le_trans hle hi)

theorem bind {step : StateM Trees α} {f : α → StateM Trees β} (hstep : Builds k next a step)
    (hnext : Builds next last b (f a)) : Builds k last b (step >>= f) := by
  intro trees htrees
  obtain ⟨trees', hrun, htrees'⟩ := hstep trees htrees
  obtain ⟨trees'', hrun', htrees''⟩ := hnext trees' htrees'
  refine ⟨trees'', ?_, htrees''⟩
  rw [StateT.run_bind, hrun]
  exact hrun'

end Builds

section Collections

variable {contents : Contents} {around : List Nat} {fuel next : Nat}

/-- What is gathered of trees is a tree, which is kept under its number. -/
theorem builds_tied (shape : List Part → Document) {step : StateM Trees (List Part)}
    {documents : List Document} (hstep : Builds (k + 1) next (documents.map Part.ofTree) step)
    (hnext : k < next) :
    Builds k next (.ofTree (shape (documents.map Part.ofTree))) (do
      let parts ← step
      let p := (Part.gather (shape parts) parts).tied k
      if p.isTree then modify fun trees => trees.setIfInBounds k (some p.document)
      return p) := by
  intro trees htrees
  obtain ⟨trees', hrun, htrees'⟩ := hstep trees fun i hi => htrees i (Nat.le_of_succ_le hi)
  -- The only tree that is added stands at `k`, which is in front of `next`.
  refine ⟨trees'.setIfInBounds k (some (shape (documents.map Part.ofTree))), ?_, fun i hi => ?_⟩
  · rw [StateT.run_bind, hrun]
    dsimp only [bind]
    rw [Part.gather_ofTree]
    rfl
  · have hne : k ≠ i := Nat.ne_of_lt (Nat.lt_of_lt_of_le hnext hi)
    have htree := htrees' i hi
    simpa [Array.getElem?_setIfInBounds, hne] using htree

theorem builds_list {values : List Value} {documents : List Document}
    (haround : ∀ number ∈ around, number < k) (hnext : k < next)
    (hcontent : contents.getD k none = some (.list values))
    (hparts : Builds (k + 1) next (documents.map Part.ofTree)
      (values.mapM (Value.part contents fuel (k :: around)))) :
    Builds k next (.ofTree (.list documents))
      (Value.part contents (fuel + 1) around (.collection k)) := by
  have hmem : k ∉ around := fun hmem => Nat.lt_irrefl k (haround k hmem)
  have hall := builds_tied (fun parts => .list (parts.map Part.document)) hparts hnext
  rw [Part.map_document_ofTree] at hall
  refine hall.of_run fun trees htrees => ?_
  simp only [Value.part, List.contains_eq_mem, hmem, decide_false, Bool.false_eq_true, if_false,
    StateT.run_bind, StateT.run_get, pure_bind, htrees k (Nat.le_refl k), hcontent]

theorem builds_mapping {entries : List (Scalar × Value)} {documents : List Document}
    (haround : ∀ number ∈ around, number < k) (hnext : k < next)
    (hcontent : contents.getD k none = some (.mapping entries))
    (hparts : Builds (k + 1) next (documents.map Part.ofTree)
      (entries.mapM fun entry => Value.part contents fuel (k :: around) entry.2)) :
    Builds k next (.ofTree (.mapping ((entries.map Prod.fst).zip documents)))
      (Value.part contents (fuel + 1) around (.collection k)) := by
  have hmem : k ∉ around := fun hmem => Nat.lt_irrefl k (haround k hmem)
  have hall := builds_tied
    (fun parts => .mapping ((entries.map Prod.fst).zip (parts.map Part.document))) hparts hnext
  rw [Part.map_document_ofTree] at hall
  refine hall.of_run fun trees htrees => ?_
  simp only [Value.part, List.contains_eq_mem, hmem, decide_false, Bool.false_eq_true, if_false,
    StateT.run_bind, StateT.run_get, pure_bind, htrees k (Nat.le_refl k), hcontent]

/-! ## Values -/

variable {g : Graph}

/-- Wherever the graph holds the value and it is reached from the root, its document is built
with enough fuel inside what has a smaller number. -/
def IsBuilt (g : Graph) (contents : Contents) (j : Json) : Prop :=
  ∀ k fuel around, g.Holds k (valueCells k j) → g.Reaches 0 k → nodeCount j ≤ fuel →
    (∀ number ∈ around, number < k) →
    Builds k (k + nodeCount j) (.ofTree (Document.ofJson j))
      ((g.valueAt k).part contents fuel around)

theorem forall_mem_cons_lt (haround : ∀ number ∈ around, number < k) :
    ∀ number ∈ k :: around, number < k + 1 :=
  List.forall_mem_cons.mpr
    ⟨Nat.lt_succ_self k, fun number hnumber => Nat.lt_succ_of_lt (haround number hnumber)⟩

theorem isBuilt_of_scalar {tag : Tag} {content : Text} {s : Scalar}
    (hcells : ∀ k, valueCells k j = [.scalar tag content]) (hs : scalarValue tag content = .ok s)
    (hdocument : Document.ofJson j = .scalar s) (hcount : nodeCount j = 1) :
    IsBuilt g contents j := by
  intro k fuel around hholds _ _ _ trees htrees
  rw [hcells] at hholds
  have hcell := hholds.head.2
  rw [Graph.valueAt_of_cell hcell, Graph.scalarAt_of_cell hcell hs, hdocument]
  refine ⟨trees, ?_, fun i hi => htrees i (by omega)⟩
  cases fuel <;> rfl

theorem builds_items (htidy : ∀ item ∈ items, item.IsTidy depth)
    (hitems : ∀ item ∈ items, IsBuilt g contents item) (hholds : g.Holds k (itemCells k items))
    (hreaches : ∀ number ∈ itemNumbers k items, g.Reaches 0 number)
    (hfuel : itemCount items ≤ fuel) (haround : ∀ number ∈ around, number < k) :
    Builds k (k + itemCount items) ((Document.ofJsonItems items).map Part.ofTree)
      (((itemNumbers k items).map g.valueAt).mapM (Value.part contents fuel around)) := by
  induction items generalizing k with
  | nil => exact .pure []
  | cons item items ih =>
      obtain ⟨htidy, htidies⟩ := List.forall_mem_cons.mp htidy
      obtain ⟨hitem, hitems⟩ := List.forall_mem_cons.mp hitems
      obtain ⟨hreach, hreaches⟩ := List.forall_mem_cons.mp hreaches
      obtain ⟨hfirst, hrest⟩ := hholds.items_cons htidy
      rw [itemCount] at hfuel ⊢
      rw [itemNumbers, List.map_cons, List.mapM_cons]
      refine (hitem k fuel around hfirst hreach (by omega) haround).bind ?_
      rw [← Nat.add_assoc]
      refine (ih htidies hitems hrest hreaches (by omega) fun number hnumber => ?_).bind (.pure _)
      exact Nat.lt_add_right _ (haround number hnumber)

theorem builds_fields (htidy : ∀ field ∈ fields, field.2.IsTidy depth)
    (hvalues : ∀ field ∈ fields, IsBuilt g contents field.2)
    (hholds : g.Holds k (fieldCells k fields))
    (hreaches : ∀ pair ∈ fieldNumbers k fields, g.Reaches 0 pair.2)
    (hfuel : fieldCount fields ≤ fuel) (haround : ∀ number ∈ around, number < k) :
    Builds k (k + fieldCount fields)
      ((fields.map fun field => Document.ofJson field.2).map Part.ofTree)
      (((fieldNumbers k fields).map fun pair => (g.scalarAt pair.1, g.valueAt pair.2)).mapM
        fun entry => Value.part contents fuel around entry.2) := by
  induction fields generalizing k with
  | nil => exact .pure []
  | cons field fields ih =>
      obtain ⟨name, value⟩ := field
      obtain ⟨htidy, htidies⟩ := List.forall_mem_cons.mp htidy
      obtain ⟨hvalue, hvalues⟩ := List.forall_mem_cons.mp hvalues
      obtain ⟨hreach, hreaches⟩ := List.forall_mem_cons.mp hreaches
      obtain ⟨-, hfirst, hrest⟩ := hholds.fields_cons htidy
      rw [fieldCount] at hfuel ⊢
      -- The cell of the name stands at `k`, so the value begins at the next number.
      have hbuilt : Builds (k + 1) (k + 1 + nodeCount value) (.ofTree (Document.ofJson value))
          ((g.valueAt (k + 1)).part contents fuel around) :=
        hvalue (k + 1) fuel around hfirst hreach (by dsimp only; omega)
          fun number hnumber => Nat.lt_succ_of_lt (haround number hnumber)
      rw [Nat.add_right_comm, Nat.add_assoc] at hbuilt
      simp only [fieldNumbers, List.map_cons, List.mapM_cons]
      rw [← Nat.add_assoc]
      refine (hbuilt.weaken (Nat.le_succ k)).bind ?_
      refine (ih htidies hvalues hrest hreaches (by omega) fun number hnumber => ?_).bind (.pure _)
      exact Nat.lt_add_right _ (haround number hnumber)

section Contents

variable (hcontents : ∀ i, g.Reaches 0 i → g.IsCollection i →
  contents.getD i none = some (g.contentAt i))
include hcontents

theorem isBuilt_array (htidy : ∀ item ∈ items, item.IsTidy depth)
    (hitems : ∀ item ∈ items, IsBuilt g contents item) : IsBuilt g contents (.array items) := by
  intro k fuel around hholds hreach hfuel haround
  rw [valueCells] at hholds
  obtain ⟨hlt, hcell⟩ := hholds.head
  have hvalue : g.valueAt k = .collection k := by simp only [Graph.valueAt, hcell]
  have hcontent := hcontents k hreach ⟨hlt, hvalue⟩
  rw [Graph.contentAt, hcell] at hcontent
  rw [nodeCount] at hfuel ⊢
  obtain ⟨fuel, rfl⟩ := Nat.exists_eq_add_one_of_ne_zero (show fuel ≠ 0 by omega)
  have hreaches : ∀ number ∈ itemNumbers (k + 1) items, g.Reaches 0 number := by
    intro number hnumber
    refine hreach.tail ?_
    rwa [Graph.children, hcell]
  rw [hvalue, ← Nat.add_assoc, Nat.add_right_comm]
  refine builds_list haround (by omega) hcontent ?_
  exact builds_items htidy hitems hholds.tail hreaches (Nat.le_of_succ_le_succ hfuel)
    (forall_mem_cons_lt haround)

theorem isBuilt_object (htidy : ∀ field ∈ fields, field.2.IsTidy depth)
    (hvalues : ∀ field ∈ fields, IsBuilt g contents field.2) :
    IsBuilt g contents (.object fields) := by
  intro k fuel around hholds hreach hfuel haround
  rw [valueCells] at hholds
  obtain ⟨hlt, hcell⟩ := hholds.head
  have hvalue : g.valueAt k = .collection k := by simp only [Graph.valueAt, hcell]
  have hcontent := hcontents k hreach ⟨hlt, hvalue⟩
  rw [Graph.contentAt, hcell] at hcontent
  rw [nodeCount] at hfuel ⊢
  obtain ⟨fuel, rfl⟩ := Nat.exists_eq_add_one_of_ne_zero (show fuel ≠ 0 by omega)
  have hreaches : ∀ pair ∈ fieldNumbers (k + 1) fields, g.Reaches 0 pair.2 := by
    intro pair hpair
    refine hreach.tail ?_
    rw [Graph.children, hcell]
    exact List.mem_map_of_mem hpair
  have hdocument : Document.ofJson (.object fields) =
      .mapping ((((fieldNumbers (k + 1) fields).map fun pair =>
        (g.scalarAt pair.1, g.valueAt pair.2)).map Prod.fst).zip
          (fields.map fun field => Document.ofJson field.2)) := by
    rw [List.map_map]
    change _ = Document.mapping (((fieldNumbers (k + 1) fields).map fun pair =>
      g.scalarAt pair.1).zip _)
    rw [(Graph.forall_fieldNumbers htidy hholds.tail).2, Document.ofJson,
      Document.ofJsonFields_eq_map, List.zip_map']
  rw [hvalue, hdocument, ← Nat.add_assoc, Nat.add_right_comm]
  refine builds_mapping haround (by omega) hcontent ?_
  exact builds_fields htidy hvalues hholds.tail hreaches (Nat.le_of_succ_le_succ hfuel)
    (forall_mem_cons_lt haround)

/-- From the right contents the document of a value is built. -/
theorem isBuilt_of_isTidy (htidy : j.IsTidy depth) : IsBuilt g contents j := by
  induction htidy with
  | null => exact isBuilt_of_scalar (fun _ => rfl) rfl rfl rfl
  | bool b =>
      cases b with
      | true => exact isBuilt_of_scalar (fun _ => rfl) (Graph.scalarValue_bool true) rfl rfl
      | false => exact isBuilt_of_scalar (fun _ => rfl) (Graph.scalarValue_bool false) rfl rfl
  | int hn => exact isBuilt_of_scalar (fun _ => rfl) (Graph.scalarValue_int hn) rfl rfl
  | text _ => exact isBuilt_of_scalar (fun _ => rfl) rfl rfl rfl
  | array htidy ih => exact isBuilt_array hcontents htidy ih
  | object _ htidy ih => exact isBuilt_object hcontents htidy ih

end Contents

end Collections

/-- The document of the node of a value is the document of the value. -/
theorem document_valueNode [Machine] (htidy : j.IsTidy depth) :
    (valueNode j).document = .ok (.ofJson j) := by
  have hholds := Graph.holds_cells (valueCells 0 j)
  obtain ⟨contents, hload, hsize, hcontents⟩ :=
    Loading.ofRoot_of_isRegular (Graph.isRegular_valueCells htidy) hholds.lt_size
  -- Each collection takes one unit of fuel, and there is one more than there are cells.
  have hfuel : nodeCount j ≤ contents.size + 1 := by
    rw [hsize, List.size_toArray, length_valueCells htidy]
    exact Nat.le_succ _
  obtain ⟨trees, hrun, -⟩ := isBuilt_of_isTidy hcontents htidy 0 (contents.size + 1) [] hholds .refl
    hfuel nofun (Array.replicate contents.size none) fun i _ => Loading.getD_replicate _ i
  rw [Node.document, Graph.ofNode_valueNode htidy]
  simp only [hload, bind, Except.bind, Value.document, hrun]
  rfl

end Yaml
end ActorManifest
