import ActorManifest.Proofs.Fields
import Mathlib.Data.List.Forall2

/-!
# What was read

A field that was read says what its document holds: the value in the form in which it is written,
or nothing where the field is unset.  A list that was read gives one value for each item.
-/

namespace ActorManifest

open Document

/-! ## Lists -/

/-- Steps that were taken for the items of a list gave one result for each item. -/
theorem mapM_eq_ok_iff
    {ε α β : Type} {f : α → Except ε β} {items : List α} {results : List β} :
    items.mapM f = .ok results ↔ List.Forall₂ (fun a b => f a = .ok b) items results := by
  induction items generalizing results with
  | nil => cases results <;> simp [pure, Except.pure]
  | cons a rest ih =>
      rw [List.mapM_cons]
      simp only [bind_eq_ok_iff, ih, pure, Except.pure, Except.ok.injEq]
      constructor
      · rintro ⟨b, hb, bs, hbs, rfl⟩
        exact .cons hb hbs
      · rintro (_ | ⟨hb, hbs⟩)
        exact ⟨_, hb, _, hbs, rfl⟩

/-! ## Fields -/

/-- What stands under a name in a document that is a mapping. -/
def Document.under? (name : String) (d : Document) : Option Document :=
  d.entries?.bind (lookup? name)

theorem Document.under?_eq {d : Document} {entries : DocumentEntries}
    (hentries : d.entries? = some entries) (name : String) :
    d.under? name = lookup? name entries := by
  rw [under?, hentries, Option.bind_some]

theorem entriesOf_eq_ok_iff {owner : Owner} {d : Document} {entries : DocumentEntries} :
    entriesOf owner d = .ok entries ↔ d.entries? = some entries := by
  unfold entriesOf
  cases d.entries? <;> simp

/-- What stands in a field is nothing or null. -/
def IsUnset (found : Option Document) : Prop :=
  found = none ∨ found = some .null

theorem IsUnset.bind_items? {found : Option Document} (hunset : IsUnset found) :
    found.bind items? = none := by
  rcases hunset with rfl | rfl <;> rfl

theorem IsUnset.bind_entries? {found : Option Document} (hunset : IsUnset found) :
    found.bind entries? = none := by
  rcases hunset with rfl | rfl <;> rfl

/-- What stands in a field is what a value is written to, and the field is unset if there is no
value. -/
def Holds {α : Type} (write : α → Document) (found : Option Document) : Option α → Prop
  | some a => found = some (write a)
  | none => IsUnset found

namespace Field

variable {owner : Owner} {field : String} {entries : DocumentEntries}

theorem holds_of_text? {value : Option Text} (hread : text? owner field entries = .ok value) :
    Holds .text (lookup? field entries) value := by
  unfold text? at hread
  split at hread <;> cases hread
  · exact .inl ‹_›
  · exact .inr ‹_›
  · assumption

theorem holds_of_bool? [Machine]
    {value : Option Bool} (hread : bool? owner field entries = .ok value) :
    Holds (fun b => .scalar (.bool b)) (lookup? field entries) value := by
  unfold bool? at hread
  split at hread <;> cases hread
  · exact .inl ‹_›
  · exact .inr ‹_›
  · assumption

/-- An optional list was read as none from a field that is unset, or item by item from a list. -/
theorem holds_of_list?
    {α : Type} {read : Document → Except Refusal α} {value : Option (List α)}
    (hread : list? owner field read entries = .ok value) :
    (value = none ∧ IsUnset (lookup? field entries)) ∨
      ∃ list items as, lookup? field entries = some list ∧ list.items? = some items ∧
        items.mapM read = .ok as ∧ value = some as := by
  unfold list? at hread
  split at hread
  · cases hread
    exact .inl ⟨rfl, .inl ‹_›⟩
  · cases hread
    exact .inl ⟨rfl, .inr ‹_›⟩
  · rename_i list _ hentry
    split at hread
    · rename_i items hitems
      obtain ⟨as, has, rfl⟩ := map_eq_ok_iff.mp hread
      exact .inr ⟨list, items, as, hentry, hitems, has, rfl⟩
    · cases hread

/-- Optional variables were read as none from a field that is unset, or entry by entry from a
mapping. -/
theorem holds_of_variables? [Machine]
    {value : Option (Entries Text Text)} (hread : variables? owner field entries = .ok value) :
    (value = none ∧ IsUnset (lookup? field entries)) ∨
      ∃ mapping items pairs, lookup? field entries = some mapping ∧
        mapping.entries? = some items ∧ items.mapM (variableOf owner field) = .ok pairs ∧
        value = some (Entries.ofList (· == ·) pairs) := by
  unfold variables? at hread
  split at hread
  · cases hread
    exact .inl ⟨rfl, .inl ‹_›⟩
  · cases hread
    exact .inl ⟨rfl, .inr ‹_›⟩
  · rename_i mapping _ hentry
    split at hread
    · rename_i items hitems
      obtain ⟨pairs, hpairs, rfl⟩ := map_eq_ok_iff.mp hread
      exact .inr ⟨mapping, items, pairs, hentry, hitems, hpairs, rfl⟩
    · cases hread

end Field

end ActorManifest
