import ActorManifest.Proofs.Entries
import ActorManifest.Yaml.Loader
import Mathlib.Logic.Relation

/-!
# Loading regular graphs

In a regular graph every scalar has a value, sequences and mappings have their own tags, and the
keys of a mapping are different texts.  Its nodes may hold each other in any way.  Such a graph
is loaded without a fault: each collection that is reached from the root is seen once, waits
once and is then filled, so the fuel is enough.
-/

namespace ActorManifest
namespace Yaml
namespace Graph

/-! ## Nodes of regular graphs -/

/-- The scalar that a node stands for. -/
def scalarAt (g : Graph) (number : Nat) : Scalar :=
  match g.cell number with
  | .scalar tag content => (scalarValue tag content).toOption.getD .null
  | _ => .null

/-- What a node stands for by its shape. -/
def valueAt (g : Graph) (number : Nat) : Value :=
  match g.cell number with
  | .scalar _ _ => .scalar (g.scalarAt number)
  | _ => .collection number

/-- What a collection holds. -/
def contentAt (g : Graph) (number : Nat) : Content :=
  match g.cell number with
  | .mapping _ entries =>
    .mapping (entries.map fun entry => (g.scalarAt entry.1, g.valueAt entry.2))
  | .sequence _ items => .list (items.map g.valueAt)
  | .scalar _ _ => .list []

/-- The nodes that a collection holds, less the keys of a mapping. -/
def children (g : Graph) (number : Nat) : List Nat :=
  match g.cell number with
  | .mapping _ entries => entries.map Prod.snd
  | .sequence _ items => items
  | .scalar _ _ => []

/-- Whether a number belongs to a collection of the graph. -/
def IsCollection (g : Graph) (number : Nat) : Prop :=
  number < g.cells.size ∧ g.valueAt number = .collection number

/-- Whether a node is held by another one, by what that holds, or so on, or is the same node. -/
def Reaches (g : Graph) : Nat → Nat → Prop :=
  Relation.ReflTransGen fun number child => child ∈ g.children number

/-- A scalar that has a value, a sequence of nodes, or a mapping whose keys are different
texts. -/
inductive IsRegularCell (g : Graph) : Cell → Prop
  | scalar {tag : Tag} {content : Text} {s : Scalar} (hs : scalarValue tag content = .ok s) :
      IsRegularCell g (.scalar tag content)
  | sequence {items : List Nat} (hitems : ∀ item ∈ items, item < g.cells.size) :
      IsRegularCell g (.sequence .seq items)
  | mapping {entries : List (Nat × Nat)}
      (hkeys : ∀ entry ∈ entries, ∃ name, g.cell entry.1 = .scalar .str name)
      (hdiffer : (entries.map fun entry => g.scalarAt entry.1).Nodup)
      (hbounds : ∀ entry ∈ entries, entry.1 < g.cells.size ∧ entry.2 < g.cells.size) :
      IsRegularCell g (.mapping .map entries)

/-- Every node of the graph is regular. -/
def IsRegular (g : Graph) : Prop :=
  ∀ number < g.cells.size, g.IsRegularCell (g.cell number)

variable {g : Graph} {number : Nat} {tag : Tag} {content : Text} {s : Scalar}

theorem scalarAt_of_cell (hcell : g.cell number = .scalar tag content)
    (hs : scalarValue tag content = .ok s) : g.scalarAt number = s := by
  simp only [scalarAt, hcell, hs]
  rfl

theorem valueAt_of_cell (hcell : g.cell number = .scalar tag content) :
    g.valueAt number = .scalar (g.scalarAt number) := by
  simp only [valueAt, hcell]

/-- A node of a regular graph stands for what its shape says. -/
theorem firstValue_of_isRegularCell [Machine] (hregular : g.IsRegularCell (g.cell number)) :
    Loading.firstValue g number = .ok (g.valueAt number) := by
  generalize hcell : g.cell number = cell at hregular
  cases hregular with
  | @scalar tag content s hs =>
      rw [valueAt_of_cell hcell, scalarAt_of_cell hcell hs]
      have htag : g.tag number = tag := by rw [Graph.tag, hcell]; rfl
      -- A tag of a collection has no value, and neither has one without a meaning.
      cases tag <;> simp only [scalarValue, reduceCtorEq] at hs <;>
        simp only [Loading.firstValue, Loading.scalarOf, hcell, htag, scalarValue, hs] <;> rfl
  | sequence _ =>
      have htag : g.tag number = .seq := by rw [Graph.tag, hcell]; rfl
      simp only [Loading.firstValue, htag, valueAt, hcell]
  | mapping _ _ _ =>
      have htag : g.tag number = .map := by rw [Graph.tag, hcell]; rfl
      simp only [Loading.firstValue, htag, valueAt, hcell]

theorem isCollection_of_valueAt {other : Nat} (hnumber : number < g.cells.size)
    (hvalue : g.valueAt number = .collection other) : g.IsCollection number := by
  refine ⟨hnumber, ?_⟩
  unfold valueAt at hvalue ⊢
  split at hvalue <;> simp_all

/-! ## Merging -/

theorem isCollection_of_mem_children {child : Nat} (hchild : child ∈ g.children number) :
    g.IsCollection number := by
  refine ⟨?_, ?_⟩
  · by_contra hout
    have hcell : g.cell number = .scalar .null [] := by
      rw [cell, Array.getD_eq_getD_getElem?, Array.getElem?_eq_none (Nat.le_of_not_lt hout)]
      rfl
    simp [children, hcell] at hchild
  · cases hcell : g.cell number with
    | scalar _ _ => simp [children, hcell] at hchild
    | sequence _ _ | mapping _ _ => simp only [valueAt, hcell]

theorem tag_of_cell (hcell : g.cell number = .scalar tag content) : g.tag number = tag := by
  rw [Graph.tag, hcell]
  rfl

theorem takeMerge?_of_tags {entries : List (Nat × Nat)}
    (htags : ∀ entry ∈ entries, g.tag entry.1 = .str) : g.takeMerge? entries = none := by
  induction entries with
  | nil => rfl
  | cons entry entries ih =>
      obtain ⟨hfirst, htags⟩ := List.forall_mem_cons.mp htags
      simp [takeMerge?, asksForMerge, hfirst, ih htags]

/-- A mapping whose keys are texts asks for no merge, and its keys stand for themselves. -/
theorem merge_of_tags (htags : ∀ entry ∈ g.entries number, g.tag entry.1 = .str) (fuel : Nat)
    {levels : Nat} (hlevels : 0 < levels) : g.merge fuel levels number = .ok g := by
  have hplain : g.withPlainKeys number = g := by
    unfold withPlainKeys
    generalize g.entries number = entries at htags
    induction entries with
    | nil => rfl
    | cons entry entries ih =>
        obtain ⟨hfirst, htags⟩ := List.forall_mem_cons.mp htags
        have hkey : g.withPlainKey entry.1 = g := by simp [withPlainKey, hfirst]
        rw [List.foldl_cons, hkey, ih htags]
  obtain ⟨rest, rfl⟩ := Nat.exists_eq_add_one.mpr hlevels
  cases fuel with
  | zero => simp only [merge, hplain]
  | succ fuel => simp only [merge, takeMerge?_of_tags htags, hplain]

end Graph

namespace Loading

variable {g : Graph} {numbers : List Nat} {units number : Nat} {l : Loading}

/-! ## The state of loading -/

/-- A node whose value is settled. -/
def Seen (l : Loading) (number : Nat) : Prop :=
  l.values.getD number none ≠ none

/-- A collection whose content is known and holds nothing that was not seen. -/
def IsFilled (g : Graph) (l : Loading) (number : Nat) : Prop :=
  l.contents.getD number none = some (g.contentAt number) ∧
    ∀ child ∈ g.children number, l.Seen child

/-- Twice the number of the collections that wait and of the nodes that are not seen: each of
them can cost a round and a filling at most. -/
def remaining (l : Loading) : Nat :=
  2 * l.waiting.length + 2 * l.values.countP Option.isNone

/-- The graph is loaded so far that all that was seen is filled, waits, or is one of some
numbers. -/
structure IsUnderway (g : Graph) (numbers : List Nat) (units : Nat) (l : Loading) : Prop where
  graph : l.graph = g
  values_size : l.values.size = g.cells.size
  contents_size : l.contents.size = g.cells.size
  values : ∀ i v, l.values.getD i none = some v → v = g.valueAt i
  waits : ∀ i ∈ l.waiting, g.IsCollection i
  listed : ∀ i ∈ numbers, g.IsCollection i
  filled : ∀ i, l.Seen i → g.IsCollection i → i ∈ numbers ∨ i ∈ l.waiting ∨ l.IsFilled g i
  remaining : l.remaining ≤ units

theorem getD_replicate {α : Type} (size i : Nat) :
    (Array.replicate size (none : Option α)).getD i none = none := by
  rw [Array.getD_eq_getD_getElem?, Array.getElem?_replicate]
  split <;> rfl

theorem isUnderway_start (g : Graph) : (start g).IsUnderway g [] (2 * g.cells.size) where
  graph := rfl
  values_size := by simp [start]
  contents_size := by simp [start]
  values := by
    intro i v hv
    simp only [start, getD_replicate, reduceCtorEq] at hv
  waits := nofun
  listed := nofun
  filled := fun i hseen => absurd (getD_replicate _ i) hseen
  remaining := by simp [Loading.remaining, start, Array.countP_replicate]

theorem getD_setIfInBounds {α : Type} {known : Array (Option α)} {i j : Nat} {a : α}
    (hi : i < known.size) :
    (known.setIfInBounds i (some a)).getD j none = if i = j then some a else known.getD j none := by
  simp only [Array.getD_eq_getD_getElem?, Array.getElem?_setIfInBounds, hi, if_true]
  split <;> rfl

theorem seen_see {i j : Nat} {v : Value} (hi : i < l.values.size) :
    (l.see i v).Seen j ↔ i = j ∨ l.Seen j := by
  simp only [Seen, see, getD_setIfInBounds hi]
  split <;> simp_all

/-- A node that is seen is one node less that is not, and it waits once at most. -/
theorem remaining_see {i : Nat} {v : Value} (hi : i < l.values.size)
    (hnew : l.values.getD i none = none) : (l.see i v).remaining ≤ l.remaining := by
  have hcell : l.values[i].isNone = true := by
    rw [Array.getD_eq_getD_getElem?, Array.getElem?_eq_getElem hi, Option.getD_some] at hnew
    rw [hnew]
    rfl
  have hpositive : 0 < l.values.countP Option.isNone :=
    Array.countP_pos_iff.mpr ⟨_, Array.getElem_mem hi, hcell⟩
  have hcount : (l.values.setIfInBounds i (some v)).countP Option.isNone =
      l.values.countP Option.isNone - 1 := by
    rw [Array.setIfInBounds_def, dif_pos hi, Array.countP_set hi, if_pos hcell]
    rfl
  simp only [remaining, see, hcount]
  cases v with
  | scalar s => dsimp only; omega
  | collection number => rw [List.length_cons]; omega

theorem mem_waiting_see {i j : Nat} {v : Value} :
    j ∈ (l.see i v).waiting ↔ v = .collection j ∨ j ∈ l.waiting := by
  cases v <;> simp [see, eq_comm]

theorem IsFilled.see {i j : Nat} {v : Value} (hfilled : l.IsFilled g j) (hi : i < l.values.size) :
    (l.see i v).IsFilled g j :=
  ⟨hfilled.1, fun child hchild => (seen_see hi).mpr (.inr (hfilled.2 child hchild))⟩

theorem isUnderway_see (hl : l.IsUnderway g numbers units) (hnumber : number < g.cells.size)
    (hnew : l.values.getD number none = none) :
    (l.see number (g.valueAt number)).IsUnderway g numbers units := by
  have hi : number < l.values.size := hl.values_size ▸ hnumber
  exact {
    graph := hl.graph
    values_size := by simp [see, hl.values_size]
    contents_size := hl.contents_size
    values := by
      intro i v hv
      simp only [see, getD_setIfInBounds hi] at hv
      split at hv
      · rename_i heq
        cases hv
        rw [heq]
      · exact hl.values i v hv
    waits := by
      intro i hmem
      rcases mem_waiting_see.mp hmem with hvalue | hmem
      · have hcollection := Graph.isCollection_of_valueAt hnumber hvalue
        cases hvalue.symm.trans hcollection.2
        exact hcollection
      · exact hl.waits i hmem
    listed := hl.listed
    filled := by
      intro i hseen hcollection
      rcases (seen_see hi).mp hseen with rfl | hseen
      · exact .inr (.inl (mem_waiting_see.mpr (.inl hcollection.2)))
      · rcases hl.filled i hseen hcollection with hmem | hmem | hfilled
        · exact .inl hmem
        · exact .inr (.inl (mem_waiting_see.mpr (.inr hmem)))
        · exact .inr (.inr (hfilled.see hi))
    remaining := Nat.le_trans (remaining_see hi hnew) hl.remaining }

theorem isUnderway_nextRound (hl : l.IsUnderway g [] units) :
    { l with waiting := [] }.IsUnderway g l.waiting.reverse (units - 2 * l.waiting.length) where
  graph := hl.graph
  values_size := hl.values_size
  contents_size := hl.contents_size
  values := hl.values
  waits := nofun
  listed := fun i hi => hl.waits i (List.mem_reverse.mp hi)
  filled := by
    intro i hseen hcollection
    rcases hl.filled i hseen hcollection with hmem | hmem | hfilled
    · cases hmem
    · exact .inl (List.mem_reverse.mpr hmem)
    · exact .inr (.inr hfilled)
  remaining := by
    have hremaining := hl.remaining
    simp only [Loading.remaining, List.length_nil] at hremaining ⊢
    omega

theorem isFilled_of_isUnderway {i : Nat} (hl : l.IsUnderway g [] units) (hwaiting : l.waiting = [])
    (hseen : l.Seen i) (hcollection : g.IsCollection i) : l.IsFilled g i := by
  simpa [hwaiting] using hl.filled i hseen hcollection

/-! ## Steps -/

/-- The step gives a value, sees some nodes, and forgets nothing. -/
def Gives {α : Type} (g : Graph) (numbers : List Nat) (units : Nat) (seen : List Nat) (a : α)
    (step : Step α) : Prop :=
  ∀ l : Loading, l.IsUnderway g numbers units →
    ∃ l' : Loading, step.run l = .ok (a, l') ∧ l'.IsUnderway g numbers units ∧
      (∀ i, l.Seen i → l'.Seen i) ∧ ∀ i ∈ seen, l'.Seen i

namespace Gives

variable {α β : Type} {seen first second : List Nat} {a : α} {b : β}

theorem pure (a : α) : Gives g numbers units [] a (Pure.pure a) :=
  fun l hl => ⟨l, rfl, hl, fun _ => id, nofun⟩

theorem weaken {step : Step α} (hstep : Gives g numbers units first a step)
    (hsubset : ∀ i ∈ second, i ∈ first) : Gives g numbers units second a step := by
  intro l hl
  obtain ⟨l', hrun, hl', hkeeps, hseen⟩ := hstep l hl
  exact ⟨l', hrun, hl', hkeeps, fun i hi => hseen i (hsubset i hi)⟩

theorem of_run {step other : Step α} (hother : Gives g numbers units seen a other)
    (hrun : ∀ l : Loading, l.IsUnderway g numbers units → step.run l = other.run l) :
    Gives g numbers units seen a step := by
  intro l hl
  rw [hrun l hl]
  exact hother l hl

theorem bind {step : Step α} {next : α → Step β} (hstep : Gives g numbers units first a step)
    (hnext : Gives g numbers units second b (next a)) :
    Gives g numbers units (first ++ second) b (step >>= next) := by
  intro l hl
  obtain ⟨l', hrun, hl', hkeeps, hseen⟩ := hstep l hl
  obtain ⟨l'', hrun', hl'', hkeeps', hseen'⟩ := hnext l' hl'
  refine ⟨l'', ?_, hl'', fun i hi => hkeeps' i (hkeeps i hi), ?_⟩
  · rw [StateT.run_bind, hrun]
    exact hrun'
  · intro i hi
    rcases List.mem_append.mp hi with hi | hi
    · exact hkeeps' i (hseen i hi)
    · exact hseen' i hi

theorem mapM {f : α → Step β} {value : α → β} {nodes : α → List Nat} {items : List α}
    (hitems : ∀ a ∈ items, Gives g numbers units (nodes a) (value a) (f a)) :
    Gives g numbers units (items.flatMap nodes) (items.map value) (items.mapM f) := by
  induction items with
  | nil => exact .pure []
  | cons item items ih =>
      obtain ⟨hitem, hitems⟩ := List.forall_mem_cons.mp hitems
      rw [List.mapM_cons, List.flatMap_cons, List.map_cons]
      refine hitem.bind ?_
      rw [← List.append_nil (List.flatMap _ _)]
      exact (ih hitems).bind (.pure _)

end Gives

/-- A node is seen at most once, and its value is settled then. -/
theorem gives_value [Machine] (hregular : g.IsRegular) (hnumber : number < g.cells.size) :
    Gives g numbers units [number] (g.valueAt number) (value number) := by
  intro l hl
  cases hknown : l.values.getD number none with
  | some v =>
      obtain rfl := hl.values number v hknown
      have hrun : (value number).run l = .ok (g.valueAt number, l) := by
        simp only [value, StateT.run_bind, StateT.run_get, pure_bind, hknown]
        rfl
      have hseen : l.Seen number := by
        rw [Seen, hknown]
        exact Option.some_ne_none _
      exact ⟨l, hrun, hl, fun _ => id, List.forall_mem_singleton.mpr hseen⟩
  | none =>
      have hfirst := Graph.firstValue_of_isRegularCell (hregular number hnumber)
      rw [← hl.graph] at hfirst
      have hrun : (value number).run l =
          .ok (l.graph.valueAt number, l.see number (l.graph.valueAt number)) := by
        simp only [value, StateT.run_bind, StateT.run_get, pure_bind, hknown, hfirst]
        rfl
      rw [hl.graph] at hrun
      have hi : number < l.values.size := hl.values_size ▸ hnumber
      refine ⟨_, hrun, isUnderway_see hl hnumber hknown, ?_, ?_⟩
      · exact fun i hseen => (seen_see hi).mpr (.inr hseen)
      · exact List.forall_mem_singleton.mpr ((seen_see hi).mpr (.inl rfl))

/-- Keys are different texts, so no entry takes the place of another. -/
theorem ofList_of_keys {entries : List (Nat × Nat)}
    (hkeys : ∀ entry ∈ entries, ∃ name, g.cell entry.1 = .scalar .str name)
    (hdiffer : (entries.map fun entry => g.scalarAt entry.1).Nodup) :
    Entries.ofList Scalar.sameKey
        (entries.map fun entry => (g.scalarAt entry.1, g.valueAt entry.2)) =
      entries.map fun entry => (g.scalarAt entry.1, g.valueAt entry.2) := by
  refine Entries.ofList_of_pairwise (List.pairwise_map.mpr ?_)
  refine (List.pairwise_map.mp hdiffer).imp_of_mem fun hfirst hsecond hne => ?_
  obtain ⟨first, hfirst⟩ := hkeys _ hfirst
  obtain ⟨second, hsecond⟩ := hkeys _ hsecond
  rw [Graph.scalarAt_of_cell hfirst rfl, Graph.scalarAt_of_cell hsecond rfl] at hne ⊢
  exact beq_false_of_ne hne

section Regular

variable (hregular : g.IsRegular)
include hregular

theorem gives_entry [Machine]
    {pair : Nat × Nat} {name : Text} (hkey : g.cell pair.1 = .scalar .str name)
    (hbounds : pair.1 < g.cells.size ∧ pair.2 < g.cells.size) :
    Gives g numbers units [pair.1, pair.2] (g.scalarAt pair.1, g.valueAt pair.2) (entry pair) := by
  have hvalue : Gives g numbers units [pair.1] (g.valueAt pair.1) (value pair.1) :=
    gives_value hregular hbounds.1
  rw [Graph.valueAt_of_cell hkey] at hvalue
  exact hvalue.bind ((gives_value hregular hbounds.2).bind (.pure _))

theorem gives_entries [Machine]
    {pairs : List (Nat × Nat)} (hcell : g.cell number = .mapping .map pairs)
    (hkeys : ∀ pair ∈ pairs, ∃ name, g.cell pair.1 = .scalar .str name)
    (hdiffer : (pairs.map fun pair => g.scalarAt pair.1).Nodup)
    (hbounds : ∀ pair ∈ pairs, pair.1 < g.cells.size ∧ pair.2 < g.cells.size) (fuel : Nat) :
    Gives g numbers units (pairs.map Prod.snd)
      (pairs.map fun pair => (g.scalarAt pair.1, g.valueAt pair.2)) (entries fuel number) := by
  obtain rfl : g.entries number = pairs := by
    rw [Graph.entries, hcell]
    rfl
  have hmerge : g.merge fuel Machine.chainLevels number = .ok g := by
    refine Graph.merge_of_tags (fun pair hpair => ?_) fuel Machine.chainLevels_pos
    obtain ⟨name, hname⟩ := hkeys pair hpair
    exact Graph.tag_of_cell hname
  have hread : Gives g numbers units ((g.entries number).flatMap fun pair => [pair.1, pair.2])
      ((g.entries number).map fun pair => (g.scalarAt pair.1, g.valueAt pair.2))
      ((g.entries number).mapM entry) := by
    refine .mapM fun pair hpair => ?_
    obtain ⟨name, hname⟩ := hkeys pair hpair
    exact gives_entry hregular hname (hbounds pair hpair)
  have hall : Gives g numbers units _ _
      (do return Entries.ofList Scalar.sameKey (← (g.entries number).mapM entry)) :=
    hread.bind (.pure _)
  rw [ofList_of_keys hkeys hdiffer] at hall
  refine (hall.of_run fun l hl => ?_).weaken ?_
  · obtain rfl := hl.graph
    simp only [entries, StateT.run_bind, StateT.run_get, pure_bind, hcell, hmerge]
    rfl
  · intro child hchild
    obtain ⟨pair, hpair, rfl⟩ := List.mem_map.mp hchild
    simp only [List.append_nil, List.mem_flatMap]
    exact ⟨pair, hpair, by simp⟩

/-- The content of a collection is read, and all that it holds is seen. -/
theorem gives_content [Machine] (hcollection : g.IsCollection number) (fuel : Nat) :
    Gives g numbers units (g.children number) (g.contentAt number) (content fuel number) := by
  have hcell := hregular number hcollection.1
  generalize heq : g.cell number = cell at hcell
  cases hcell with
  | scalar _ => exact absurd hcollection.2 (by simp [Graph.valueAt, heq])
  | @sequence nodes hitems =>
      have hall : Gives g numbers units _ _ (do return Content.list (← nodes.mapM value)) :=
        (Gives.mapM fun node hnode => gives_value hregular (hitems node hnode)).bind (.pure _)
      have htag : g.tag number = .seq := by rw [Graph.tag, heq]; rfl
      simp only [Graph.contentAt, Graph.children, heq]
      refine (hall.of_run fun l hl => ?_).weaken ?_
      · obtain rfl := hl.graph
        simp only [content, items, StateT.run_bind, StateT.run_get, pure_bind, htag, heq]
        rfl
      · simp
  | mapping hkeys hdiffer hbounds =>
      have hall : Gives g numbers units _ _ (do return Content.mapping (← entries fuel number)) :=
        (gives_entries hregular heq hkeys hdiffer hbounds fuel).bind (.pure _)
      have htag : g.tag number = .map := by rw [Graph.tag, heq]; rfl
      simp only [Graph.contentAt, Graph.children, heq]
      refine (hall.of_run fun l hl => ?_).weaken ?_
      · obtain rfl := hl.graph
        simp only [content, StateT.run_bind, StateT.run_get, pure_bind, htag]
      · simp

/-! ## Rounds -/

theorem fill_of_isUnderway [Machine] (hl : l.IsUnderway g (number :: numbers) units) (fuel : Nat) :
    ∃ l' : Loading, (fill fuel number).run l = .ok ((), l') ∧ l'.IsUnderway g numbers units ∧
      ∀ i, l.Seen i → l'.Seen i := by
  obtain ⟨hcollection, hlisted⟩ := List.forall_mem_cons.mp hl.listed
  obtain ⟨l', hrun, hl', hkeeps, hseen⟩ := gives_content hregular hcollection fuel l hl
  have hi : number < l'.contents.size := hl'.contents_size ▸ hcollection.1
  refine ⟨{ l' with contents := l'.contents.setIfInBounds number (some (g.contentAt number)) },
    ?_, ?_, hkeeps⟩
  · rw [fill, StateT.run_bind, hrun]
    rfl
  · exact {
      graph := hl'.graph
      values_size := hl'.values_size
      contents_size := by simp [hl'.contents_size]
      values := hl'.values
      waits := hl'.waits
      listed := hlisted
      filled := by
        intro i hi' hcollection'
        by_cases heq : number = i
        · subst heq
          exact .inr (.inr ⟨by simp only [getD_setIfInBounds hi, if_true], hseen⟩)
        · rcases hl'.filled i hi' hcollection' with hmem | hmem | hfilled
          · exact .inl ((List.mem_cons.mp hmem).resolve_left (Ne.symm heq))
          · exact .inr (.inl hmem)
          · refine .inr (.inr ⟨?_, hfilled.2⟩)
            simp only [getD_setIfInBounds hi, if_neg heq, hfilled.1]
      remaining := hl'.remaining }

omit hregular in
theorem fillAll_nil [Machine] (mergeFuel fuel : Nat) :
    (fillAll mergeFuel (fuel + 1) []).run l =
      if l.waiting = [] then .ok ((), l)
      else (fillAll mergeFuel fuel l.waiting.reverse).run { l with waiting := [] } := by
  cases hwaiting : l.waiting <;>
    simp only [fillAll, StateT.run_bind, StateT.run_get, pure_bind, hwaiting] <;> rfl

/-- All that was seen is filled in the end.  A filling takes one number off and may add one
collection to those that wait, which was not seen before; a round takes two units for each
collection and gives one back. -/
theorem fillAll_of_isUnderway [Machine] (mergeFuel fuel : Nat) (hl : l.IsUnderway g numbers units)
    (hfuel : numbers.length + units ≤ fuel) :
    ∃ l' : Loading, (fillAll mergeFuel fuel numbers).run l = .ok ((), l') ∧
      l'.contents.size = g.cells.size ∧ (∀ i, l.Seen i → l'.Seen i) ∧
      ∀ i, l'.Seen i → g.IsCollection i → l'.IsFilled g i := by
  induction fuel generalizing numbers units l with
  | zero =>
      have hremaining := hl.remaining
      simp only [Loading.remaining] at hremaining
      obtain rfl := List.length_eq_zero_iff.mp (show numbers.length = 0 by omega)
      have hwaiting := List.length_eq_zero_iff.mp (show l.waiting.length = 0 by omega)
      exact ⟨l, rfl, hl.contents_size, fun _ => id, fun _ => isFilled_of_isUnderway hl hwaiting⟩
  | succ fuel ih =>
      cases numbers with
      | cons number numbers =>
          obtain ⟨l', hrun, hl', hkeeps⟩ := fill_of_isUnderway hregular hl mergeFuel
          rw [List.length_cons] at hfuel
          obtain ⟨l'', hrun', hsize, hkeeps', hfilled⟩ := ih hl' (by omega)
          refine ⟨l'', ?_, hsize, fun i hi => hkeeps' i (hkeeps i hi), hfilled⟩
          rw [fillAll, StateT.run_bind, hrun]
          exact hrun'
      | nil =>
          rw [fillAll_nil]
          by_cases hwaiting : l.waiting = []
          · rw [if_pos hwaiting]
            exact ⟨l, rfl, hl.contents_size, fun _ => id,
              fun _ => isFilled_of_isUnderway hl hwaiting⟩
          · rw [if_neg hwaiting]
            have hremaining := hl.remaining
            have hlength : 0 < l.waiting.length := List.length_pos_iff.mpr hwaiting
            simp only [Loading.remaining, List.length_nil] at hremaining hfuel
            exact ih (isUnderway_nextRound hl) (by rw [List.length_reverse]; omega)

/-- A regular graph is loaded, and the contents of the collections that are reached from the
root are what the graph says. -/
theorem ofRoot_of_isRegular [Machine] {root : Nat} (hroot : root < g.cells.size) :
    ∃ contents : Contents, ofRoot root g = .ok (g.valueAt root, contents) ∧
      contents.size = g.cells.size ∧
      ∀ i, g.Reaches root i → g.IsCollection i →
        contents.getD i none = some (g.contentAt i) := by
  obtain ⟨l, hvalue, hl, -, hseen⟩ := gives_value hregular hroot (start g) (isUnderway_start g)
  obtain ⟨l', hfill, hsize, hkeeps, hfilled⟩ :=
    fillAll_of_isUnderway hregular g.mergeCount (2 * g.cells.size + 1) hl (by simp)
  have hreached : ∀ i, g.Reaches root i → l'.Seen i := by
    intro i hreaches
    induction hreaches with
    | refl => exact hkeeps root (hseen root (List.mem_singleton_self root))
    | tail _ hchild ih =>
        have hcollection := Graph.isCollection_of_mem_children hchild
        exact (hfilled _ ih hcollection).2 _ hchild
  refine ⟨l'.contents, ?_, hsize, fun i hreaches hcollection =>
    (hfilled i (hreached i hreaches) hcollection).1⟩
  rw [ofRoot, hvalue]
  simp only [bind, Except.bind, hfill]
  rfl

end Regular

end Loading
end Yaml
end ActorManifest
