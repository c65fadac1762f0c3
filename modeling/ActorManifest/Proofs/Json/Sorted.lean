import ActorManifest.Proofs.Json.Layout
import ActorManifest.Proofs.Text.CodePoint
import Mathlib.Data.List.Perm.Subperm

/-!
# Sorted values

The order of texts is total, so an object has one sorted form whatever the order of its fields.
Two objects whose sorted forms are equal hold the same under each name, up to the order inside
of it.  Since a sorted value is laid out as a spelling of it, values of one canonical form are
equal once they are sorted.
-/

namespace ActorManifest

/-! ## The order of texts -/

namespace Text

theorem le_cons_iff {a b : CodePoint} {s t : Text} :
    le (a :: s) (b :: t) = true ↔ a.toNat < b.toNat ∨ a = b ∧ le s t = true := by
  rw [le]
  by_cases hlt : a.toNat < b.toNat
  · simp [hlt]
  by_cases hgt : b.toNat < a.toNat
  · have hne : a ≠ b := fun heq => Nat.ne_of_gt hgt (congrArg CodePoint.toNat heq)
    simp [hlt, hgt, hne]
  · have heq : a = b := CodePoint.toNat_inj (by omega)
    simp [heq]

theorem le_total (s t : Text) : (le s t || le t s) = true := by
  induction s generalizing t with
  | nil => simp [le]
  | cons a s ih =>
      cases t with
      | nil => simp [le]
      | cons b t =>
          rw [Bool.or_eq_true, le_cons_iff, le_cons_iff]
          rcases Nat.lt_trichotomy a.toNat b.toNat with hlt | heq | hgt
          · exact .inl (.inl hlt)
          · obtain rfl := CodePoint.toNat_inj heq
            exact (Bool.or_eq_true_iff.mp (ih t)).imp (fun h => .inr ⟨rfl, h⟩)
              fun h => .inr ⟨rfl, h⟩
          · exact .inr (.inl hgt)

theorem le_trans {s t u : Text} (hst : le s t = true) (htu : le t u = true) :
    le s u = true := by
  induction s generalizing t u with
  | nil => rw [le]
  | cons a s ih =>
      cases t with
      | nil => cases hst
      | cons b t =>
          cases u with
          | nil => cases htu
          | cons c u =>
              rw [le_cons_iff] at hst htu ⊢
              rcases hst with hab | ⟨rfl, hst⟩
              · rcases htu with hbc | ⟨rfl, -⟩
                · exact .inl (Nat.lt_trans hab hbc)
                · exact .inl hab
              · rcases htu with hbc | ⟨rfl, htu⟩
                · exact .inl hbc
                · exact .inr ⟨rfl, ih hst htu⟩

theorem le_antisymm {s t : Text} (hst : le s t = true) (hts : le t s = true) : s = t := by
  induction s generalizing t with
  | nil =>
      cases t with
      | nil => rfl
      | cons b t => cases hts
  | cons a s ih =>
      cases t with
      | nil => cases hst
      | cons b t =>
          rw [le_cons_iff] at hst hts
          rcases hst with hab | ⟨rfl, hst⟩
          · rcases hts with hba | ⟨rfl, -⟩
            · exact absurd hba (Nat.lt_asymm hab)
            · exact absurd hab (Nat.lt_irrefl _)
          · rcases hts with hba | ⟨-, hts⟩
            · exact absurd hba (Nat.lt_irrefl _)
            · rw [ih hst hts]

end Text

namespace Json

open Text

/-! ## Values inside a sorted value -/

theorem sortedItems_eq_map (items : List Json) : sortedItems items = items.map sorted := by
  induction items with
  | nil => rfl
  | cons item items ih => rw [sortedItems, ih, List.map_cons]

theorem sortedFields_eq_map (fields : List (Text × Json)) :
    sortedFields fields = fields.map fun field => (field.1, field.2.sorted) := by
  induction fields with
  | nil => rfl
  | cons field fields ih => rw [sortedFields, ih, List.map_cons]

theorem names_sortedFields (fields : List (Text × Json)) :
    (sortedFields fields).map Prod.fst = fields.map Prod.fst := by
  rw [sortedFields_eq_map, List.map_map]
  rfl

theorem sorted_array (items : List Json) :
    (array items).sorted = .array (items.map sorted) := by
  rw [sorted, sortedItems_eq_map]

/-- The sorted form of an object has the fields of the object, with sorted values. -/
theorem exists_sorted_object (fields : List (Text × Json)) :
    ∃ inOrder, (object fields).sorted = .object inOrder ∧
      inOrder.Perm (fields.map fun field => (field.1, field.2.sorted)) ∧
      (inOrder.map Prod.fst).Perm (fields.map Prod.fst) := by
  have hperm := List.mergeSort_perm (sortedFields fields) fun a b => le a.1 b.1
  refine ⟨_, rfl, ?_, ?_⟩
  · rw [← sortedFields_eq_map]
    exact hperm
  · have hnames := hperm.map Prod.fst
    rwa [names_sortedFields] at hnames

variable {depth : Nat}

theorem isTidy_sorted {j : Json} (htidy : IsTidy depth j) : IsTidy depth j.sorted := by
  induction htidy with
  | null => exact .null
  | bool b => exact .bool b
  | int hn => exact .int hn
  | text t => exact .text t
  | array hitems ih =>
      rw [sorted_array]
      exact .array (List.forall_mem_map.mpr ih)
  | @object depth fields hdistinct hvalues ih =>
      obtain ⟨inOrder, hsorted, hperm, hnames⟩ := exists_sorted_object fields
      rw [hsorted]
      refine .object (hnames.nodup_iff.mpr hdistinct) ?_
      intro field hfield
      obtain ⟨original, hmem, rfl⟩ := List.mem_map.mp (hperm.mem_iff.mp hfield)
      exact ih original hmem

theorem hasPlainText_sorted
    {j : Json} (htidy : IsTidy depth j) (hplain : j.HasPlainText) : j.sorted.HasPlainText := by
  induction htidy with
  | null | bool b | int hn | text t => exact hplain
  | array hitems ih =>
      rw [sorted_array]
      rw [hasPlainText_array_iff] at hplain ⊢
      exact List.forall_mem_map.mpr fun item hitem => ih item hitem (hplain item hitem)
  | @object depth fields hdistinct hvalues ih =>
      obtain ⟨inOrder, hsorted, hperm, -⟩ := exists_sorted_object fields
      rw [hsorted]
      rw [hasPlainText_object_iff] at hplain ⊢
      intro field hfield
      obtain ⟨original, hmem, rfl⟩ := List.mem_map.mp (hperm.mem_iff.mp hfield)
      exact ⟨(hplain original hmem).1, ih original hmem (hplain original hmem).2⟩

/-! ## Canonical forms -/

/-- Tidy values have one canonical form exactly if their sorted forms are equal. -/
theorem canonical_eq_iff
    {j k : Json} (hj : IsTidy depth j) (hk : IsTidy depth k)
    (hjplain : j.HasPlainText) (hkplain : k.HasPlainText) :
    j.canonical = k.canonical ↔ j.sorted = k.sorted := by
  constructor
  · intro heq
    have hspells := spells_compact (isTidy_sorted hj) (hasPlainText_sorted hj hjplain)
    have hspells' := spells_compact (isTidy_sorted hk) (hasPlainText_sorted hk hkplain)
    change Spells depth j.sorted j.canonical at hspells
    rw [heq] at hspells
    exact hspells.unique hspells'
  · intro heq
    rw [canonical, heq, canonical]

/-! ## Sorted objects -/

theorem lookup_eq_some_iff_mem
    {fields : List (Text × Json)} (hdistinct : (fields.map Prod.fst).Nodup)
    {name : Text} {value : Json} :
    fields.lookup name = some value ↔ (name, value) ∈ fields := by
  induction fields with
  | nil => simp
  | cons field fields ih =>
      rcases field with ⟨key, old⟩
      rw [List.map_cons, List.nodup_cons] at hdistinct
      rw [List.lookup_cons, List.mem_cons]
      by_cases hkey : name = key
      · subst hkey
        have hmem : (name, value) ∉ fields :=
          fun hmem => hdistinct.1 (List.mem_map.mpr ⟨_, hmem, rfl⟩)
        simp [hmem, eq_comm]
      · rw [beq_eq_false_iff_ne.mpr hkey]
        simp [hkey, ih hdistinct.2]

/-- Fields with different names are looked up alike in any order. -/
theorem lookup_of_perm
    {fields others : List (Text × Json)} (hperm : fields.Perm others)
    (hdistinct : (fields.map Prod.fst).Nodup) (name : Text) :
    fields.lookup name = others.lookup name := by
  have hdistinct' : (others.map Prod.fst).Nodup := (hperm.map Prod.fst).nodup_iff.mp hdistinct
  refine Option.ext fun value => ?_
  rw [lookup_eq_some_iff_mem hdistinct, lookup_eq_some_iff_mem hdistinct', hperm.mem_iff]

theorem lookup_map (f : Json → Json) (fields : List (Text × Json)) (name : Text) :
    (fields.map fun field => (field.1, f field.2)).lookup name = (fields.lookup name).map f := by
  induction fields with
  | nil => rfl
  | cons field fields ih =>
      rw [List.map_cons, List.lookup_cons, List.lookup_cons, ih]
      split <;> rfl

/-- Objects with equal sorted forms hold the same under each name, once it is sorted. -/
theorem lookup_of_sorted_eq
    {fields others : List (Text × Json)} (htidy : IsTidy depth (.object fields))
    (heq : (object fields).sorted = (object others).sorted) (name : Text) :
    (fields.lookup name).map sorted = (others.lookup name).map sorted := by
  obtain ⟨inOrder, hsorted, hperm, hnames⟩ := exists_sorted_object fields
  obtain ⟨inOrder', hsorted', hperm', -⟩ := exists_sorted_object others
  rw [hsorted, hsorted'] at heq
  obtain rfl := object.inj heq
  have hinOrder : (inOrder.map Prod.fst).Nodup := by
    cases htidy with
    | object hdistinct _ => exact hnames.nodup_iff.mpr hdistinct
  rw [← lookup_map, ← lookup_map, ← lookup_of_perm hperm hinOrder, lookup_of_perm hperm' hinOrder]

/-- Fields with different names are sorted alike in any order. -/
theorem sorted_object_of_perm
    {fields others : List (Text × Json)} (hperm : fields.Perm others)
    (hdistinct : (fields.map Prod.fst).Nodup) :
    (object fields).sorted = (object others).sorted := by
  have htrans : ∀ a b c : Text × Json, le a.1 b.1 = true → le b.1 c.1 = true →
      le a.1 c.1 = true := fun _ _ _ hab hbc => le_trans hab hbc
  have htotal : ∀ a b : Text × Json, (le a.1 b.1 || le b.1 a.1) = true :=
    fun a b => le_total a.1 b.1
  have hinside : (sortedFields fields).Perm (sortedFields others) := by
    rw [sortedFields_eq_map, sortedFields_eq_map]
    exact hperm.map _
  have hunique : ∀ a b : Text × Json, a ∈ sortedFields fields → b ∈ sortedFields fields →
      a.1 = b.1 → a = b := by
    rw [← names_sortedFields] at hdistinct
    exact fun a b ha hb => List.inj_on_of_nodup_map hdistinct ha hb
  rw [sorted, sorted]
  -- Fields are ordered by name only, so it takes different names for one order to be left.
  refine congrArg object (List.Perm.eq_of_pairwise ?_ (List.pairwise_mergeSort htrans htotal _)
    (List.pairwise_mergeSort htrans htotal _) ?_)
  · intro a b ha hb hab hba
    rw [List.mem_mergeSort] at ha hb
    exact hunique a b ha (hinside.mem_iff.mpr hb) (le_antisymm hab hba)
  · exact (List.mergeSort_perm _ _).trans (hinside.trans (List.mergeSort_perm _ _).symm)

/-! ## Fields of a sorted object -/

variable {α : Type} {encode : α → Json}

@[simp] theorem lookup_field (name key : String) (value : Json) :
    (field key value).lookup (Text.ofString name) = if key = name then some value else none := by
  rw [field, List.lookup_cons, List.lookup_nil]
  by_cases hkey : key = name
  · simp [hkey]
  · have hne : (Text.ofString name == Text.ofString key) = false :=
      beq_eq_false_iff_ne.mpr fun heq => hkey (Text.ofString_inj.mp heq).symm
    rw [hne, if_neg hkey]

@[simp] theorem lookup_field? (name key : String) (value : Option α) :
    (field? key encode value).lookup (Text.ofString name) =
      if key = name then value.map encode else none := by
  cases value with
  | none => simp [field?]
  | some a => simp [field?]

theorem sortedFields_append (fields more : List (Text × Json)) :
    sortedFields (fields ++ more) = sortedFields fields ++ sortedFields more := by
  simp only [sortedFields_eq_map, List.map_append]

theorem sortedFields_field (name : String) (value : Json) :
    sortedFields (field name value) = field name value.sorted := rfl

theorem sortedFields_field? (name : String) (value : Option α) :
    sortedFields (field? name encode value) =
      field? name id (value.map (sorted ∘ encode)) := by
  cases value <;> rfl

theorem sorted_object_of_sortedFields_eq
    {fields others : List (Text × Json)} (heq : sortedFields fields = sortedFields others) :
    (object fields).sorted = (object others).sorted := by
  rw [sorted, heq, sorted]

end Json
end ActorManifest
