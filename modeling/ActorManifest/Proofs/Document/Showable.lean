import ActorManifest.Proofs.Document.Short
import Mathlib.Data.List.Monad

/-!
# Documents that can be shown

A document is shown if its whole numbers are short and it has no more levels than the machine
can show.  What is read of a document are its parts, those of an opened knot included, and each
of them may have to be shown.  So a document is showable if its numbers are short and none of its
parts is too deep.  The document of a JSON text is as deep as the text says.
-/

namespace ActorManifest

/-! ## Parts -/

namespace Document

/-- The document is another one, or is reached from it through items and values. -/
inductive IsPartOf (whole : Document) : Document → Prop
  | self : IsPartOf whole whole
  | item {part item : Document} {items : List Document} (hpart : IsPartOf whole part)
      (hitems : part.items? = some items) (hitem : item ∈ items) : IsPartOf whole item
  | value {part : Document} {entries : DocumentEntries} {entry : Scalar × Document}
      (hpart : IsPartOf whole part) (hentries : part.entries? = some entries)
      (hentry : entry ∈ entries) : IsPartOf whole entry.2

theorem IsPartOf.trans {whole middle part : Document} (hmiddle : IsPartOf whole middle)
    (hpart : IsPartOf middle part) : IsPartOf whole part := by
  induction hpart with
  | self => exact hmiddle
  | item _ hitems hitem ih => exact ih.item hitems hitem
  | value _ hentries hentry ih => exact ih.value hentries hentry

end Document

/-- No part of the document has more than so many levels. -/
def Document.IsWithin (levels : Nat) (d : Document) : Prop :=
  ∀ part, d.IsPartOf part → part.depth ≤ levels

/-- No part of a value in the entries of a mapping has more than so many levels. -/
def DocumentEntries.AreWithin (levels : Nat) (entries : DocumentEntries) : Prop :=
  ∀ entry ∈ entries, entry.2.IsWithin levels

theorem mem_of_lookup? {entries : DocumentEntries} {name : Text} {d : Document}
    (hentry : lookup? name entries = some d) : (.text name, d) ∈ entries := by
  obtain ⟨⟨key, value⟩, hmem, hvalue⟩ := List.exists_of_findSome?_eq_some hentry
  dsimp only at hvalue
  split at hvalue
  · rename_i hkey
    cases hvalue
    exact hkey ▸ hmem
  · cases hvalue

namespace Document

variable {d : Document} {levels : Nat}

theorem IsWithin.of_isPartOf (hd : d.IsWithin levels) {part : Document}
    (hpart : d.IsPartOf part) : part.IsWithin levels :=
  fun inner hinner => hd inner (hpart.trans hinner)

theorem isWithin_of_items? (hd : d.IsWithin levels) {items : List Document}
    (hitems : d.items? = some items) : ∀ item ∈ items, item.IsWithin levels :=
  fun _ hitem => hd.of_isPartOf (.item .self hitems hitem)

theorem areWithin_of_entries? (hd : d.IsWithin levels) {entries : DocumentEntries}
    (hentries : d.entries? = some entries) : entries.AreWithin levels :=
  fun _ hentry => hd.of_isPartOf (.value .self hentries hentry)

end Document

section Showable

variable [Machine]

/-- No part of the document has more levels than the machine can show. -/
def Document.IsShallow (d : Document) : Prop :=
  d.IsWithin Machine.shownLevels

/-- Every part of the document can be shown. -/
structure Document.IsShowable (d : Document) : Prop where
  short : d.IsShort
  shallow : d.IsShallow

/-- Every key and every part of a value in the entries of a mapping can be shown. -/
def DocumentEntries.IsShowable (entries : DocumentEntries) : Prop :=
  ∀ entry ∈ entries, entry.1.IsShort ∧ entry.2.IsShowable

namespace Document

variable {d : Document}

theorem isShowable_of_items? (hshow : d.IsShowable) {items : List Document}
    (hitems : d.items? = some items) : ∀ item ∈ items, item.IsShowable := fun item hitem =>
  ⟨isShort_of_items? hshow.short hitems item hitem,
    isWithin_of_items? hshow.shallow hitems item hitem⟩

theorem isShowable_of_entries? (hshow : d.IsShowable) {entries : DocumentEntries}
    (hentries : d.entries? = some entries) : entries.IsShowable := fun entry hentry =>
  have hshort := isShort_of_entries? hshow.short hentries entry hentry
  ⟨hshort.1, hshort.2, areWithin_of_entries? hshow.shallow hentries entry hentry⟩

end Document

theorem isShowable_of_lookup? {entries : DocumentEntries} (hshow : entries.IsShowable)
    {name : Text} {d : Document} (hentry : lookup? name entries = some d) : d.IsShowable :=
  (hshow _ (mem_of_lookup? hentry)).2

end Showable

/-! ## Documents that are shown -/

namespace Document

theorem depth_le_depthOfItems {items : List Document} {item : Document} (hitem : item ∈ items) :
    item.depth ≤ depthOfItems items := by
  induction items with
  | nil => cases hitem
  | cons first rest ih =>
      rw [depthOfItems]
      rcases List.mem_cons.mp hitem with rfl | hitem
      · exact Nat.le_max_left _ _
      · exact Nat.le_trans (ih hitem) (Nat.le_max_right _ _)

theorem depth_le_depthOfEntries {entries : DocumentEntries} {entry : Scalar × Document}
    (hentry : entry ∈ entries) : entry.2.depth ≤ depthOfEntries entries := by
  induction entries with
  | nil => cases hentry
  | cons first rest ih =>
      rcases first with ⟨key, value⟩
      rw [depthOfEntries]
      rcases List.mem_cons.mp hentry with rfl | hentry
      · exact Nat.le_max_left _ _
      · exact Nat.le_trans (ih hentry) (Nat.le_max_right _ _)

theorem ofText?_eq_ok_iff {found : Option Text} {t : Text} :
    ofText? found = .ok t ↔ found = some t := by
  cases found <;> simp [ofText?]

theorem exists_ofText? {found : Option Text} (hfound : ∃ t, found = some t) :
    ∃ t, ofText? found = .ok t := by
  obtain ⟨t, rfl⟩ := hfound
  exact ⟨t, rfl⟩

section Shown

variable [Machine] {d : Document} {levels : Nat} {around : Surroundings}

theorem exists_shownMembers {members : List Scalar}
    (hmembers : ∀ member ∈ members, member.IsShort) :
    ∃ parts, shownMembers members = .ok parts :=
  exists_mapM fun s hs => exists_ofText? (s.exists_shown? (hmembers s (mem_of_mem_slotOrder hs)))

theorem exists_shownItems {items : List Document}
    (hitems : ∀ item ∈ items, ∃ t, item.shownWithin levels around = .ok t) :
    ∃ parts, shownItems items levels around = .ok parts := by
  induction items with
  | nil => exact ⟨[], rfl⟩
  | cons item rest ih =>
      obtain ⟨t, ht⟩ := hitems item List.mem_cons_self
      obtain ⟨parts, hparts⟩ := ih fun item hitem => hitems item (List.mem_cons_of_mem _ hitem)
      exact ⟨t :: parts, by rw [shownItems, ht, hparts]; rfl⟩

theorem exists_shownEntries {entries : List (Scalar × Document)}
    (hkeys : ∀ entry ∈ entries, entry.1.IsShort)
    (hvalues : ∀ entry ∈ entries, ∃ t, entry.2.shownWithin levels around = .ok t) :
    ∃ parts, shownEntries entries levels around = .ok parts := by
  induction entries with
  | nil => exact ⟨[], rfl⟩
  | cons entry rest ih =>
      rcases entry with ⟨key, value⟩
      obtain ⟨k, hk⟩ := exists_ofText? (key.exists_shown? (hkeys _ List.mem_cons_self))
      obtain ⟨t, ht⟩ := hvalues _ List.mem_cons_self
      obtain ⟨parts, hparts⟩ := ih (fun entry hentry => hkeys entry (List.mem_cons_of_mem _ hentry))
        fun entry hentry => hvalues entry (List.mem_cons_of_mem _ hentry)
      exact ⟨_, by rw [shownEntries, hk, ht, hparts]; rfl⟩

/-- A document without long numbers is shown with room for its levels, whatever knots are around
it. -/
theorem exists_shownWithin (hshort : d.IsShort) (hdepth : d.depth ≤ levels)
    (around : Surroundings) : ∃ t, d.shownWithin levels around = .ok t := by
  induction hshort generalizing levels around with
  | scalar hs =>
      rw [shownWithin]
      exact exists_ofText? (Scalar.exists_shown? hs)
  | @list items _ ih =>
      rw [depth] at hdepth
      obtain ⟨room, rfl⟩ := Nat.exists_eq_add_one.mpr (Nat.zero_lt_of_lt hdepth)
      have hroom := Nat.le_of_succ_le_succ hdepth
      obtain ⟨parts, hparts⟩ := exists_shownItems fun item hitem =>
        ih item hitem (Nat.le_trans (depth_le_depthOfItems hitem) hroom) around
      exact ⟨_, by rw [shownWithin, hparts]; rfl⟩
  | pair _ _ ihfirst ihsecond =>
      rw [depth] at hdepth
      obtain ⟨room, rfl⟩ := Nat.exists_eq_add_one.mpr (Nat.zero_lt_of_lt hdepth)
      have hroom := Nat.max_le.mp (Nat.le_of_succ_le_succ hdepth)
      obtain ⟨first, hfirst⟩ := ihfirst hroom.1 around
      obtain ⟨second, hsecond⟩ := ihsecond hroom.2 around
      exact ⟨_, by rw [shownWithin, hfirst, hsecond]; rfl⟩
  | @set members hmembers =>
      cases members with
      | nil => exact ⟨_, rfl⟩
      | cons member rest =>
          obtain ⟨parts, hparts⟩ := exists_shownMembers hmembers
          exact ⟨_, by rw [shownWithin, hparts]; rfl; simp⟩
  | mapping hkeys _ ih =>
      rw [depth] at hdepth
      obtain ⟨room, rfl⟩ := Nat.exists_eq_add_one.mpr (Nat.zero_lt_of_lt hdepth)
      have hroom := Nat.le_of_succ_le_succ hdepth
      obtain ⟨parts, hparts⟩ := exists_shownEntries hkeys fun entry hentry =>
        ih entry hentry (Nat.le_trans (depth_le_depthOfEntries hentry) hroom) around
      exact ⟨_, by rw [shownWithin, hparts]; rfl⟩
  | @knot label body _ ih =>
      rw [depth] at hdepth
      rw [shownWithin]
      split
      · exact ⟨_, rfl⟩
      · exact ih hdepth _
  | again label => exact ⟨_, by rw [shownWithin]⟩

theorem exists_shown (hshow : d.IsShowable) : ∃ t, d.shown = .ok t :=
  exists_shownWithin hshow.short (hshow.shallow d .self) []

theorem exists_toText (hshow : d.IsShowable) : ∃ t, d.toText = .ok t := by
  cases d with
  | scalar s =>
      obtain ⟨hs⟩ := hshow.short
      exact exists_ofText? (Scalar.exists_text? hs)
  | list _ | pair _ _ | set _ | mapping _ | knot _ _ | again _ => exact exists_shown hshow

theorem not_isShowable_of_shown {fault : ShowFault} (hfault : d.shown = .error fault) :
    ¬d.IsShowable := by
  intro hshow
  obtain ⟨t, ht⟩ := exists_shown hshow
  rw [hfault] at ht
  cases ht

theorem not_isShowable_of_toText {fault : ShowFault} (hfault : d.toText = .error fault) :
    ¬d.IsShowable := by
  intro hshow
  obtain ⟨t, ht⟩ := exists_toText hshow
  rw [hfault] at ht
  cases ht

end Shown

/-! ## Documents without knots -/

section Trees

variable {whole part : Document}

theorem isTree_of_mem_items {items : List Document} (htrees : areTrees items = true)
    {item : Document} (hitem : item ∈ items) : item.isTree = true := by
  induction items with
  | nil => cases hitem
  | cons first rest ih =>
      rw [areTrees, Bool.and_eq_true] at htrees
      rcases List.mem_cons.mp hitem with rfl | hitem
      · exact htrees.1
      · exact ih htrees.2 hitem

theorem isTree_of_mem_entries {entries : DocumentEntries} (htrees : areTreeEntries entries = true)
    {entry : Scalar × Document} (hentry : entry ∈ entries) : entry.2.isTree = true := by
  induction entries with
  | nil => cases hentry
  | cons first rest ih =>
      rcases first with ⟨key, value⟩
      rw [areTreeEntries, Bool.and_eq_true] at htrees
      rcases List.mem_cons.mp hentry with rfl | hentry
      · exact htrees.1
      · exact ih htrees.2 hentry

/-- A part of a document without knots has none either, and no more levels. -/
theorem IsPartOf.depth_le (hpart : whole.IsPartOf part) (htree : whole.isTree = true) :
    part.isTree = true ∧ part.depth ≤ whole.depth := by
  induction hpart with
  | self => exact ⟨htree, Nat.le_refl _⟩
  | @item part item items _ hitems hitem ih =>
      obtain ⟨htree, hdepth⟩ := ih
      cases part with
      | list _ =>
          cases hitems
          rw [isTree] at htree
          rw [depth] at hdepth
          have hitemDepth := depth_le_depthOfItems hitem
          exact ⟨isTree_of_mem_items htree hitem, by omega⟩
      | knot _ _ => cases htree
      | scalar _ | pair _ _ | set _ | mapping _ | again _ => cases hitems
  | @value part entries entry _ hentries hentry ih =>
      obtain ⟨htree, hdepth⟩ := ih
      cases part with
      | mapping _ =>
          cases hentries
          rw [isTree] at htree
          rw [depth] at hdepth
          have hvalueDepth := depth_le_depthOfEntries hentry
          exact ⟨isTree_of_mem_entries htree hentry, by omega⟩
      | knot _ _ => cases htree
      | scalar _ | pair _ _ | set _ | list _ | again _ => cases hentries

theorem isShallow_of_isTree [Machine] (htree : whole.isTree = true)
    (hdepth : whole.depth ≤ Machine.shownLevels) : whole.IsShallow :=
  fun _ hpart => Nat.le_trans (hpart.depth_le htree).2 hdepth

end Trees

/-! ## Documents of JSON values -/

mutual

theorem isTree_ofJson : (j : Json) → (ofJson j).isTree = true
  | .null | .bool _ | .int _ | .float _ | .text _ => rfl
  | .array items => by rw [ofJson, isTree, areTrees_ofJsonItems items]
  | .object fields => by rw [ofJson, isTree, areTreeEntries_ofJsonFields fields]

theorem areTrees_ofJsonItems : (items : List Json) → areTrees (ofJsonItems items) = true
  | [] => rfl
  | item :: items => by
      rw [ofJsonItems, areTrees, isTree_ofJson item, areTrees_ofJsonItems items, Bool.and_self]

theorem areTreeEntries_ofJsonFields :
    (fields : List (Text × Json)) → areTreeEntries (ofJsonFields fields) = true
  | [] => rfl
  | (_, value) :: fields => by
      rw [ofJsonFields, areTreeEntries, isTree_ofJson value, areTreeEntries_ofJsonFields fields,
        Bool.and_self]

end

mutual

/-- The document of a JSON value has the levels of the value. -/
theorem depth_ofJson : (j : Json) → (ofJson j).depth = j.depth
  | .null | .bool _ | .int _ | .float _ | .text _ => rfl
  | .array items => by rw [ofJson, depth, Json.depth, depthOfItems_ofJsonItems items]
  | .object fields => by rw [ofJson, depth, Json.depth, depthOfEntries_ofJsonFields fields]

theorem depthOfItems_ofJsonItems :
    (items : List Json) → depthOfItems (ofJsonItems items) = Json.depthOfItems items
  | [] => rfl
  | item :: items => by
      rw [ofJsonItems, depthOfItems, Json.depthOfItems, depth_ofJson item,
        depthOfItems_ofJsonItems items]

theorem depthOfEntries_ofJsonFields :
    (fields : List (Text × Json)) → depthOfEntries (ofJsonFields fields) = Json.depthOfFields fields
  | [] => rfl
  | (_, value) :: fields => by
      rw [ofJsonFields, depthOfEntries, Json.depthOfFields, depth_ofJson value,
        depthOfEntries_ofJsonFields fields]

end

end Document
end ActorManifest
