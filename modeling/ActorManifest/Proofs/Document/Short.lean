import ActorManifest.Document.Parts
import ActorManifest.Proofs.Outcome

/-!
# Documents whose whole numbers are short

A whole number with too many digits is the only scalar that cannot be shown.  If there is none
in a document, there is none in its parts, those of an opened knot included.  A document with a
JSON form has no such number as a value.
-/

namespace ActorManifest

/-! ## Scalars -/

/-- The scalar is no whole number with too many digits. -/
def Scalar.IsShort (s : Scalar) : Prop :=
  ∀ n, s = .int n → isWritable n = true

namespace Scalar

theorem isShort_int_iff {n : Int} : (int n).IsShort ↔ isWritable n = true := by
  constructor
  · intro hshort
    exact hshort n rfl
  · intro hn m hm
    cases hm
    exact hn

theorem exists_shown? {s : Scalar} (hshort : s.IsShort) : ∃ t, s.shown? = some t := by
  cases s with
  | int n => exact ⟨_, by rw [shown?, integerText?, if_pos (hshort n rfl)]⟩
  | null | bool b | float x | text t | bytes octets | date d | time t => exact ⟨_, rfl⟩

theorem exists_text? {s : Scalar} (hshort : s.IsShort) : ∃ t, s.text? = some t := by
  cases s with
  | int n =>
      simp only [text?]
      exact exists_shown? hshort
  | null | bool b | float x | text t | bytes octets | date d | time t => exact ⟨_, rfl⟩

theorem not_isShort_of_text? {s : Scalar} (hnone : s.text? = none) : ¬s.IsShort := by
  intro hs
  obtain ⟨t, ht⟩ := s.exists_text? hs
  rw [hnone] at ht
  cases ht

end Scalar

/-! ## The members of a set -/

namespace SlotTable

variable {t : SlotTable} {x member : Nat × Scalar}

theorem mem_members_insert (hx : x ∈ (t.insert member).members) :
    x = member ∨ x ∈ t.members := by
  simp only [insert, members, Array.setIfInBounds, List.mem_filterMap, id_eq,
    exists_eq_right] at hx ⊢
  split at hx
  · rw [Array.toList_set] at hx
    rcases List.mem_or_eq_of_mem_set hx with hx | hx
    · exact .inr hx
    · cases hx
      exact .inl rfl
  · exact .inr hx

theorem mem_members_foldl_insert
    {entries : List (Nat × Scalar)} (hx : x ∈ (entries.foldl insert t).members) :
    x ∈ entries ∨ x ∈ t.members := by
  induction entries generalizing t with
  | nil => exact .inr hx
  | cons entry rest ih =>
      rcases ih hx with hx | hx
      · exact .inl (List.mem_cons_of_mem entry hx)
      · rcases mem_members_insert hx with rfl | hx
        · exact .inl List.mem_cons_self
        · exact .inr hx

theorem members_free (size : Nat) : (free size).members = [] := by
  simp [free, members]

theorem mem_members_grown {least : Nat} (hx : x ∈ (t.grown least).members) : x ∈ t.members := by
  rcases mem_members_foldl_insert hx with hx | hx
  · exact hx
  · rw [members_free] at hx
    cases hx

theorem mem_members_add (hx : x ∈ (t.add member).members) : x = member ∨ x ∈ t.members := by
  simp only [add] at hx
  split at hx
  · exact mem_members_insert hx
  · exact mem_members_insert (mem_members_grown hx)

theorem mem_members_foldl_add
    {entries : List (Nat × Scalar)} (hx : x ∈ (entries.foldl add t).members) :
    x ∈ entries ∨ x ∈ t.members := by
  induction entries generalizing t with
  | nil => exact .inr hx
  | cons entry rest ih =>
      rcases ih hx with hx | hx
      · exact .inl (List.mem_cons_of_mem entry hx)
      · rcases mem_members_add hx with rfl | hx
        · exact .inl List.mem_cons_self
        · exact .inr hx

theorem mem_of_mem_members_ofMembers
    {entries : List (Nat × Scalar)} (hx : x ∈ (ofMembers entries).members) : x ∈ entries := by
  have hfree : ∀ least, x ∉ ((free 8).grown least).members := by
    intro least hx
    have hx := mem_members_grown hx
    rw [members_free] at hx
    cases hx
  rcases mem_members_foldl_add hx with hx | hx
  · exact hx
  · split at hx
    · rw [members_free] at hx
      cases hx
    · exact absurd hx (hfree _)

end SlotTable

/-- The order of its slots lists nothing but the members of a set. -/
theorem mem_of_mem_slotOrder [Machine] {members : List Scalar} {s : Scalar}
    (hs : s ∈ slotOrder members) : s ∈ members := by
  obtain ⟨x, hx, rfl⟩ := List.mem_map.mp hs
  obtain ⟨member, hmember, rfl⟩ :=
    List.mem_map.mp (SlotTable.mem_of_mem_members_ofMembers hx)
  exact hmember

/-! ## Documents -/

/-- No whole number in the document has too many digits. -/
inductive Document.IsShort : Document → Prop
  | scalar {s : Scalar} (hs : s.IsShort) : IsShort (.scalar s)
  | list {items : List Document} (hitems : ∀ item ∈ items, IsShort item) :
      IsShort (.list items)
  | pair {first second : Document} (hfirst : IsShort first) (hsecond : IsShort second) :
      IsShort (.pair first second)
  | set {members : List Scalar} (hmembers : ∀ member ∈ members, member.IsShort) :
      IsShort (.set members)
  | mapping {entries : List (Scalar × Document)} (hkeys : ∀ entry ∈ entries, entry.1.IsShort)
      (hvalues : ∀ entry ∈ entries, IsShort entry.2) : IsShort (.mapping entries)
  | knot {label : Nat} {body : Document} (hbody : IsShort body) : IsShort (.knot label body)
  | again (label : Nat) : IsShort (.again label)

/-- No whole number in the entries of a mapping has too many digits. -/
def DocumentEntries.IsShort (entries : DocumentEntries) : Prop :=
  ∀ entry ∈ entries, entry.1.IsShort ∧ entry.2.IsShort

namespace Document

variable {d : Document}

theorem isShort_mapping_iff {entries : DocumentEntries} :
    (mapping entries).IsShort ↔ entries.IsShort := by
  constructor
  · rintro (_ | _ | _ | _ | ⟨hkeys, hvalues⟩)
    exact fun entry hentry => ⟨hkeys entry hentry, hvalues entry hentry⟩
  · intro hshort
    exact .mapping (fun entry hentry => (hshort entry hentry).1)
      fun entry hentry => (hshort entry hentry).2

/-! ## Opened knots -/

theorem replaceItems_eq_map (label : Nat) (whole : Document) (items : List Document) :
    replaceItems label whole items = items.map (replace label whole) := by
  induction items with
  | nil => rfl
  | cons item rest ih => rw [replaceItems, ih, List.map_cons]

theorem replaceEntries_eq_map
    (label : Nat) (whole : Document) (entries : List (Scalar × Document)) :
    replaceEntries label whole entries =
      entries.map fun entry => (entry.1, replace label whole entry.2) := by
  induction entries with
  | nil => rfl
  | cons entry rest ih => rw [replaceEntries, ih, List.map_cons]

theorem isShort_replace {label : Nat} {whole : Document} (hwhole : whole.IsShort)
    (hshort : d.IsShort) : (replace label whole d).IsShort := by
  induction hshort with
  | scalar hs => exact .scalar hs
  | list _ ih =>
      rw [replace, replaceItems_eq_map]
      exact .list (List.forall_mem_map.mpr ih)
  | pair _ _ ihfirst ihsecond => exact .pair ihfirst ihsecond
  | set hmembers => exact .set hmembers
  | mapping hkeys _ ih =>
      rw [replace, replaceEntries_eq_map]
      exact .mapping (List.forall_mem_map.mpr hkeys) (List.forall_mem_map.mpr ih)
  | knot hbody ih =>
      rw [replace]
      split
      · exact .knot hbody
      · exact .knot ih
  | again inner =>
      rw [replace]
      split
      · exact hwhole
      · exact .again inner

theorem isShort_opened (hshort : d.IsShort) : d.opened.IsShort := by
  cases hshort with
  | knot hbody => exact isShort_replace (.knot hbody) hbody
  | scalar hs => exact .scalar hs
  | list hitems => exact .list hitems
  | pair hfirst hsecond => exact .pair hfirst hsecond
  | set hmembers => exact .set hmembers
  | mapping hkeys hvalues => exact .mapping hkeys hvalues
  | again label => exact .again label

/-! ## Parts -/

theorem isShort_of_items? (hshort : d.IsShort) {items : List Document}
    (hitems : d.items? = some items) : ∀ item ∈ items, item.IsShort := by
  have hopened := isShort_opened hshort
  unfold items? at hitems
  split at hitems
  · rename_i heq
    rw [heq] at hopened
    cases hitems
    cases hopened with
    | list hall => exact hall
  · cases hitems

theorem isShort_of_entries? (hshort : d.IsShort) {entries : DocumentEntries}
    (hentries : d.entries? = some entries) : entries.IsShort := by
  have hopened := isShort_opened hshort
  unfold entries? at hentries
  split at hentries
  · rename_i heq
    rw [heq] at hopened
    cases hentries
    exact isShort_mapping_iff.mp hopened
  · cases hentries

/-! ## JSON forms -/

theorem allIntegers_of_scalarToJson {s : Scalar} {j : Json} (hj : scalarToJson s = .ok j) :
    j.allIntegers isWritable = true := by
  cases s with
  | null | bool b | float x | text t => cases hj; rfl
  | int n =>
      rw [scalarToJson] at hj
      split at hj
      · cases hj
        rwa [Json.allIntegers]
      · cases hj
  | bytes octets | date d | time t => cases hj

mutual

/-- What has a JSON form has no whole number that is too long. -/
theorem allIntegers_of_toJsonWithin :
    (d : Document) → {levels : Nat} → {j : Json} → d.toJsonWithin levels = .ok j →
      j.allIntegers isWritable = true
  | .scalar s, _, _, hj => by
      rw [toJsonWithin] at hj
      exact allIntegers_of_scalarToJson hj
  | .set _, _, _, hj => by
      rw [toJsonWithin] at hj
      cases hj
  | .knot _ body, _, _, hj => by
      rw [toJsonWithin] at hj
      exact allIntegers_of_toJsonWithin body hj
  | .again _, _, _, hj => by
      rw [toJsonWithin] at hj
      cases hj
  | .list _, 0, _, hj | .pair _ _, 0, _, hj | .mapping _, 0, _, hj => by
      simp only [toJsonWithin, reduceCtorEq] at hj
  | .list items, levels + 1, _, hj => by
      rw [toJsonWithin] at hj
      obtain ⟨values, hvalues, rfl⟩ := map_eq_ok_iff.mp hj
      rw [Json.allIntegers]
      exact allIntegers_of_toJsonItems items hvalues
  | .pair first second, levels + 1, _, hj => by
      rw [toJsonWithin] at hj
      obtain ⟨value, hvalue, hj⟩ := bind_eq_ok_iff.mp hj
      obtain ⟨value', hvalue', hj⟩ := bind_eq_ok_iff.mp hj
      cases hj
      simp only [Json.allIntegers, Json.allIntegersOfItems, allIntegers_of_toJsonWithin first hvalue,
        allIntegers_of_toJsonWithin second hvalue', Bool.and_self]
  | .mapping entries, levels + 1, _, hj => by
      rw [toJsonWithin] at hj
      obtain ⟨fields, hfields, rfl⟩ := map_eq_ok_iff.mp hj
      rw [Json.allIntegers]
      exact allIntegers_of_toJsonFields entries hfields

theorem allIntegers_of_toJsonItems :
    (items : List Document) → {levels : Nat} → {values : List Json} →
      toJsonItems items levels = .ok values → Json.allIntegersOfItems isWritable values = true
  | [], _, _, hvalues => by
      rw [toJsonItems] at hvalues
      cases hvalues
      rfl
  | item :: items, _, _, hvalues => by
      rw [toJsonItems] at hvalues
      obtain ⟨value, hvalue, hvalues⟩ := bind_eq_ok_iff.mp hvalues
      obtain ⟨values, hrest, hvalues⟩ := bind_eq_ok_iff.mp hvalues
      cases hvalues
      rw [Json.allIntegersOfItems, allIntegers_of_toJsonWithin item hvalue,
        allIntegers_of_toJsonItems items hrest, Bool.and_self]

theorem allIntegers_of_toJsonFields :
    (entries : List (Scalar × Document)) → {levels : Nat} → {fields : List (Text × Json)} →
      toJsonFields entries levels = .ok fields →
        Json.allIntegersOfFields isWritable fields = true
  | [], _, _, hfields => by
      rw [toJsonFields] at hfields
      cases hfields
      rfl
  | (key, value) :: entries, _, _, hfields => by
      rw [toJsonFields] at hfields
      obtain ⟨name, -, hfields⟩ := bind_eq_ok_iff.mp hfields
      obtain ⟨form, hform, hfields⟩ := bind_eq_ok_iff.mp hfields
      obtain ⟨fields, hrest, hfields⟩ := bind_eq_ok_iff.mp hfields
      cases hfields
      rw [Json.allIntegersOfFields, allIntegers_of_toJsonWithin value hform,
        allIntegers_of_toJsonFields entries hrest, Bool.and_self]

end

theorem allIntegers_of_toJson [Machine] {d : Document} {j : Json} (hj : d.toJson = .ok j) :
    j.allIntegers isWritable = true :=
  allIntegers_of_toJsonWithin d hj

end Document
end ActorManifest
