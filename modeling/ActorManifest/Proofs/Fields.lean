import ActorManifest.Proofs.Entries
import ActorManifest.Proofs.Outcome
import ActorManifest.Spec.Build

/-!
# Fields of a written object

A record is written as an object and read from the document of that object.  The entry
under a name is the value of the field of that name, so each reader of fields gives back
what was written: a required value as it is, an optional one as present or absent.  The
readers of records need nothing else of objects and documents.
-/

namespace ActorManifest

/-! ## Names of fields -/

theorem Text.ofString_inj {s t : String} : Text.ofString s = Text.ofString t ↔ s = t := by
  rw [Text.ofString, Text.ofString, List.map_inj_right fun _ _ => CodePoint.char.inj,
    String.toList_inj]

/-! ## Entries of the document of an object -/

namespace Document

theorem ofJsonItems_eq_map (items : List Json) :
    ofJsonItems items = items.map ofJson := by
  induction items with
  | nil => rfl
  | cons item rest ih => rw [ofJsonItems, ih, List.map_cons]

theorem ofJsonFields_eq_map (fields : List (Text × Json)) :
    ofJsonFields fields = fields.map fun field => (.text field.1, ofJson field.2) := by
  induction fields with
  | nil => rfl
  | cons field rest ih => rw [ofJsonFields, ih, List.map_cons]

@[simp] theorem entriesOf_ofJson_object (owner : Owner) (fields : List (Text × Json)) :
    entriesOf owner (ofJson (.object fields)) = .ok (ofJsonFields fields) := rfl

@[simp] theorem entries?_ofJson_object (fields : List (Text × Json)) :
    (ofJson (.object fields)).entries? = some (ofJsonFields fields) := rfl

theorem ofJson_array (items : List Json) :
    ofJson (.array items) = .list (items.map ofJson) := by
  rw [ofJson, ofJsonItems_eq_map]

@[simp] theorem items?_ofJson_array (items : List Json) :
    (ofJson (.array items)).items? = some (items.map ofJson) := by
  rw [ofJson_array]
  rfl

@[simp] theorem lookup?_ofJsonFields_append (name : Text) (some more : List (Text × Json)) :
    lookup? name (ofJsonFields (some ++ more)) =
      (lookup? name (ofJsonFields some)).or (lookup? name (ofJsonFields more)) := by
  simp only [lookup?, ofJsonFields_eq_map, List.map_append, List.findSome?_append]

@[simp] theorem lookup?_ofJsonFields_field (name key : String) (value : Json) :
    lookup? name (ofJsonFields (Json.field key value)) =
      if key = name then some (ofJson value) else none := by
  simp [lookup?, ofJsonFields, Json.field, Text.ofString_inj]

@[simp] theorem lookup?_ofJsonFields_field?
    {α : Type} (name key : String) (encode : α → Json) (value : Option α) :
    lookup? name (ofJsonFields (Json.field? key encode value)) =
      if key = name then value.map fun a => ofJson (encode a) else none := by
  cases value with
  | none => simp [Json.field?, ofJsonFields, lookup?]
  | some a => simp [Json.field?]

@[simp] theorem lookup?_ofJsonFields_ite
    (name : String) (absent : Prop) [Decidable absent] (fields : List (Text × Json)) :
    lookup? name (ofJsonFields (if absent then [] else fields)) =
      if absent then none else lookup? name (ofJsonFields fields) := by
  split <;> rfl

end Document

/-! ## Readers of fields -/

namespace Field

variable {owner : Owner} {field : String} {entries : DocumentEntries}

theorem filled_of_lookup
    {t : Text} (hfilled : t ≠ [])
    (hentry : lookup? field entries = some (.ofJson (.text t))) :
    filled owner field entries = .ok ⟨t, hfilled⟩ := by
  cases t with
  | nil => exact absurd rfl hfilled
  | cons c rest => simp [filled, hentry, Document.ofJson]

theorem text?_of_lookup
    {value : Option Text}
    (hentry : lookup? field entries = value.map fun t => .ofJson (.text t)) :
    text? owner field entries = .ok value := by
  cases value <;> simp [text?, hentry, Document.ofJson]

/-- A text that is always written is read back, also when it is empty. -/
theorem textOrEmpty_of_lookup
    {t : Text} (hentry : lookup? field entries = some (.ofJson (.text t))) :
    textOrEmpty owner field entries = .ok t := by
  have htext : text? owner field entries = .ok (some t) := text?_of_lookup hentry
  simp [textOrEmpty, htext, Except.map]

theorem integer?_of_lookup [Machine]
    {value : Option Int}
    (hentry : lookup? field entries = value.map fun n => .ofJson (.int n)) :
    integer? owner field entries = .ok value := by
  cases value <;> simp [integer?, hentry, Document.ofJson]

theorem bool?_of_lookup [Machine]
    {value : Option Bool}
    (hentry : lookup? field entries = value.map fun b => .ofJson (.bool b)) :
    bool? owner field entries = .ok value := by
  cases value <;> simp [bool?, hentry, Document.ofJson]

/-- Items that are read back one by one are read back as a list. -/
theorem mapM_map_eq_ok
    {α β : Type} {read : β → Except Refusal α} {write : α → β}
    {items : List α} (hitem : ∀ a ∈ items, read (write a) = .ok a) :
    (items.map write).mapM read = .ok items := by
  induction items with
  | nil => rfl
  | cons a rest ih =>
      have hrest := ih fun b hb => hitem b (List.mem_cons_of_mem a hb)
      rw [List.map_cons, List.mapM_cons, hitem a List.mem_cons_self, hrest]
      rfl

theorem list?_of_lookup
    {α : Type} {read : Document → Except Refusal α} {write : α → Json}
    {value : Option (List α)}
    (hentry : lookup? field entries =
      value.map fun items => .ofJson (.array (items.map write)))
    (hitem : ∀ items ∈ value, ∀ a ∈ items, read (.ofJson (write a)) = .ok a) :
    list? owner field read entries = .ok value := by
  cases value with
  | none => simp [list?, hentry]
  | some items =>
      have hitems : (items.map (Document.ofJson ∘ write)).mapM read = .ok items :=
        mapM_map_eq_ok (hitem items rfl)
      rw [Option.map_some, Document.ofJson_array, List.map_map] at hentry
      simp only [list?, hentry, Document.items?, Document.opened, hitems]
      rfl

/-! ## Variables -/

theorem nodup_names_of_variables? [Machine]
    {value : Option (Entries Text Text)}
    (hread : variables? owner field entries = .ok value) :
    ∀ declared ∈ value, declared.names.Nodup := by
  unfold variables? at hread
  split at hread
  · cases hread
    simp
  · cases hread
    simp
  · split at hread
    · obtain ⟨pairs, -, rfl⟩ := map_eq_ok_iff.mp hread
      simpa using Entries.nodup_names_ofList pairs
    · cases hread

/-- Variables with different names are read back in their order. -/
theorem variables?_of_lookup [Machine]
    {value : Option (Entries Text Text)}
    (hentry : lookup? field entries =
      value.map fun declared => .ofJson (variablesToJson declared))
    (hnodup : ∀ declared ∈ value, declared.names.Nodup) :
    variables? owner field entries = .ok value := by
  cases value with
  | none => simp [variables?, hentry]
  | some declared =>
      have hwritten : variablesToJson declared =
          .object (declared.map fun entry => (entry.1, .text entry.2)) := rfl
      have hitems : (Document.ofJsonFields (declared.map fun entry =>
          (entry.1, Json.text entry.2))).mapM (variableOf owner field) = .ok declared := by
        rw [Document.ofJsonFields_eq_map, List.map_map]
        exact mapM_map_eq_ok fun _ _ => rfl
      rw [Option.map_some, hwritten, Document.ofJson] at hentry
      simp only [variables?, hentry, Document.entries?, Document.opened, hitems]
      simp [Except.map, Entries.ofList_of_nodup (hnodup declared rfl)]

end Field

end ActorManifest
