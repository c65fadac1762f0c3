import ActorManifest.Proofs.Fields
import ActorManifest.Proofs.Json.Spelling
import Mathlib.Data.List.Nodup

/-!
# Layouts spell what they lay out

Both layouts of a value spell it as it is read again: with the halves of pairs joined, with
numbers rounded from their digits, and with one field under each name.  Nothing of this changes a
value that is tidy, which records are by how they are written, and whose texts are free of lone
surrogates, which depends on what they hold.  A layout is an opening, the parts with a comma before
each but the first, and a closing; the layouts differ in the blanks around these.
-/

namespace ActorManifest
namespace Json

open Text

/-! ## Texts in a value -/

mutual

/-- The texts of a value: those that are values and the names of fields. -/
def texts : Json → List Text
  | .text t => [t]
  | .array items => textsOfItems items
  | .object fields => textsOfFields fields
  | _ => []

/-- The texts of the items of an array. -/
def textsOfItems : List Json → List Text
  | [] => []
  | item :: items => item.texts ++ textsOfItems items

/-- The texts of the fields of an object. -/
def textsOfFields : List (Text × Json) → List Text
  | [] => []
  | (name, value) :: fields => name :: value.texts ++ textsOfFields fields

end

/-- No text of the value holds a lone surrogate. -/
def HasPlainText (j : Json) : Prop :=
  ∀ t ∈ j.texts, t.hasSurrogate = false

instance (j : Json) : Decidable j.HasPlainText :=
  inferInstanceAs (Decidable (∀ t ∈ j.texts, t.hasSurrogate = false))

/-- No text of the value holds a first and a second half of a pair side by side. -/
def HasJoinedText (j : Json) : Prop :=
  ∀ t ∈ j.texts, joined t = t

theorem HasPlainText.hasJoinedText {j : Json} (hplain : j.HasPlainText) : j.HasJoinedText :=
  fun t ht => joined_eq_self (hplain t ht)

theorem textsOfItems_eq_flatMap (items : List Json) :
    textsOfItems items = items.flatMap texts := by
  induction items with
  | nil => rfl
  | cons item items ih => rw [textsOfItems, ih, List.flatMap_cons]

theorem textsOfFields_eq_flatMap (fields : List (Text × Json)) :
    textsOfFields fields = fields.flatMap fun field => field.1 :: field.2.texts := by
  induction fields with
  | nil => rfl
  | cons field fields ih => rw [textsOfFields, ih, List.flatMap_cons]

theorem forall_mem_texts_array_iff {p : Text → Prop} {items : List Json} :
    (∀ t ∈ (array items).texts, p t) ↔ ∀ item ∈ items, ∀ t ∈ item.texts, p t := by
  rw [texts, textsOfItems_eq_flatMap, List.forall_mem_flatMap]

theorem forall_mem_texts_object_iff {p : Text → Prop} {fields : List (Text × Json)} :
    (∀ t ∈ (object fields).texts, p t) ↔
      ∀ field ∈ fields, p field.1 ∧ ∀ t ∈ field.2.texts, p t := by
  simp only [texts, textsOfFields_eq_flatMap, List.forall_mem_flatMap, List.forall_mem_cons]

theorem hasPlainText_array_iff {items : List Json} :
    (array items).HasPlainText ↔ ∀ item ∈ items, item.HasPlainText :=
  forall_mem_texts_array_iff

theorem hasPlainText_object_iff {fields : List (Text × Json)} :
    (object fields).HasPlainText ↔
      ∀ field ∈ fields, field.1.hasSurrogate = false ∧ field.2.HasPlainText :=
  forall_mem_texts_object_iff

theorem hasJoinedText_array_iff {items : List Json} :
    (array items).HasJoinedText ↔ ∀ item ∈ items, item.HasJoinedText :=
  forall_mem_texts_array_iff

theorem hasJoinedText_object_iff {fields : List (Text × Json)} :
    (object fields).HasJoinedText ↔
      ∀ field ∈ fields, joined field.1 = field.1 ∧ field.2.HasJoinedText :=
  forall_mem_texts_object_iff

/-! ## Values as they are read again -/

mutual

/-- What is read where a value is written. -/
def reread : Json → Json
  | .float x => .float x.reread
  | .text t => .text (joined t)
  | .array items => .array (rereadItems items)
  | .object fields => .object (Entries.ofList (· == ·) (rereadFields fields))
  | j => j

/-- What is read where the items of an array are written. -/
def rereadItems : List Json → List Json
  | [] => []
  | item :: items => item.reread :: rereadItems items

/-- What is read where the fields of an object are written, before a name is looked for among
the earlier ones. -/
def rereadFields : List (Text × Json) → List (Text × Json)
  | [] => []
  | (name, value) :: fields => (joined name, value.reread) :: rereadFields fields

end

theorem rereadItems_eq_map (items : List Json) : rereadItems items = items.map reread := by
  induction items with
  | nil => rfl
  | cons item items ih => rw [rereadItems, ih, List.map_cons]

theorem rereadFields_eq_map (fields : List (Text × Json)) :
    rereadFields fields = fields.map fun field => (joined field.1, field.2.reread) := by
  induction fields with
  | nil => rfl
  | cons field fields ih => rw [rereadFields, ih, List.map_cons]

/-- An object whose fields have different names is read again field by field. -/
theorem reread_object_of_nodup
    {fields : List (Text × Json)} (hnames : ∀ field ∈ fields, joined field.1 = field.1)
    (hdistinct : (fields.map Prod.fst).Nodup) :
    (object fields).reread = .object (fields.map fun field => (field.1, field.2.reread)) := by
  have hfields : rereadFields fields = fields.map fun field => (field.1, field.2.reread) := by
    rw [rereadFields_eq_map]
    exact List.map_congr_left fun field hfield => Prod.ext (hnames field hfield) rfl
  have hkept : ((rereadFields fields).map Prod.fst).Nodup := by
    rw [hfields, List.map_map]
    exact hdistinct
  rw [reread, Entries.ofList_of_nodup hkept, hfields]

/-- A value of so many levels without whole numbers that are too long. -/
inductive Fits : Nat → Json → Prop
  | null {depth : Nat} : Fits depth .null
  | bool {depth : Nat} (b : Bool) : Fits depth (.bool b)
  | int {depth : Nat} {n : Int} (hn : isWritable n = true) : Fits depth (.int n)
  | float {depth : Nat} (x : Binary64) : Fits depth (.float x)
  | text {depth : Nat} (t : Text) : Fits depth (.text t)
  | array {depth : Nat} {items : List Json} (hitems : ∀ item ∈ items, Fits depth item) :
      Fits (depth + 1) (.array items)
  | object {depth : Nat} {fields : List (Text × Json)}
      (hvalues : ∀ field ∈ fields, Fits depth field.2) : Fits (depth + 1) (.object fields)

mutual

/-- A value fits where it has no more levels and no whole number of it is too long. -/
theorem fits_of_depth_le :
    (j : Json) → (depth : Nat) → j.depth ≤ depth → j.allIntegers isWritable = true → Fits depth j
  | .null, _ => fun _ _ => .null
  | .bool b, _ => fun _ _ => .bool b
  | .int n, _ => fun _ hshort => by
      rw [allIntegers] at hshort
      exact .int hshort
  | .float x, _ => fun _ _ => .float x
  | .text t, _ => fun _ _ => .text t
  | .array items, 0 => fun hdepth _ => absurd hdepth (Nat.not_succ_le_zero _)
  | .array items, depth + 1 => fun hdepth hshort => by
      rw [allIntegers] at hshort
      exact .array (fits_of_depthOfItems_le items depth (Nat.le_of_succ_le_succ hdepth) hshort)
  | .object fields, 0 => fun hdepth _ => absurd hdepth (Nat.not_succ_le_zero _)
  | .object fields, depth + 1 => fun hdepth hshort => by
      rw [allIntegers] at hshort
      exact .object (fits_of_depthOfFields_le fields depth (Nat.le_of_succ_le_succ hdepth) hshort)

theorem fits_of_depthOfItems_le :
    (items : List Json) → (depth : Nat) → depthOfItems items ≤ depth →
      allIntegersOfItems isWritable items = true → ∀ item ∈ items, Fits depth item
  | [], _ => fun _ _ => List.forall_mem_nil _
  | item :: items, depth => fun hdepth hshort => by
      rw [depthOfItems, Nat.max_le] at hdepth
      rw [allIntegersOfItems, Bool.and_eq_true] at hshort
      exact List.forall_mem_cons.mpr ⟨fits_of_depth_le item depth hdepth.1 hshort.1,
        fits_of_depthOfItems_le items depth hdepth.2 hshort.2⟩

theorem fits_of_depthOfFields_le :
    (fields : List (Text × Json)) → (depth : Nat) → depthOfFields fields ≤ depth →
      allIntegersOfFields isWritable fields = true → ∀ field ∈ fields, Fits depth field.2
  | [], _ => fun _ _ => List.forall_mem_nil _
  | (_, value) :: fields, depth => fun hdepth hshort => by
      rw [depthOfFields, Nat.max_le] at hdepth
      rw [allIntegersOfFields, Bool.and_eq_true] at hshort
      exact List.forall_mem_cons.mpr ⟨fits_of_depth_le value depth hdepth.1 hshort.1,
        fits_of_depthOfFields_le fields depth hdepth.2 hshort.2⟩

end

/-! ## Tidy values -/

/-- A value of so many levels without floating-point numbers, without whole numbers that are too
long, and without objects that name a field twice. -/
inductive IsTidy : Nat → Json → Prop
  | null {depth : Nat} : IsTidy depth .null
  | bool {depth : Nat} (b : Bool) : IsTidy depth (.bool b)
  | int {depth : Nat} {n : Int} (hn : isWritable n = true) : IsTidy depth (.int n)
  | text {depth : Nat} (t : Text) : IsTidy depth (.text t)
  | array {depth : Nat} {items : List Json} (hitems : ∀ item ∈ items, IsTidy depth item) :
      IsTidy (depth + 1) (.array items)
  | object {depth : Nat} {fields : List (Text × Json)}
      (hdistinct : (fields.map Prod.fst).Nodup)
      (hvalues : ∀ field ∈ fields, IsTidy depth field.2) :
      IsTidy (depth + 1) (.object fields)

/-- A tidy value is tidy with room for more levels. -/
theorem IsTidy.mono {depth levels : Nat} {j : Json} (htidy : IsTidy depth j)
    (hlevels : depth ≤ levels) : IsTidy levels j := by
  induction htidy generalizing levels with
  | null => exact .null
  | bool b => exact .bool b
  | int hn => exact .int hn
  | text t => exact .text t
  | array _ ih =>
      obtain ⟨room, rfl⟩ := Nat.exists_eq_add_one.mpr (Nat.zero_lt_of_lt hlevels)
      exact .array fun item hitem => ih item hitem (Nat.le_of_succ_le_succ hlevels)
  | object hdistinct _ ih =>
      obtain ⟨room, rfl⟩ := Nat.exists_eq_add_one.mpr (Nat.zero_lt_of_lt hlevels)
      exact .object hdistinct fun field hfield => ih field hfield (Nat.le_of_succ_le_succ hlevels)

theorem allIntegersOfItems_eq_all (p : Int → Bool) (items : List Json) :
    allIntegersOfItems p items = items.all (allIntegers p) := by
  induction items with
  | nil => rfl
  | cons item items ih => rw [allIntegersOfItems, ih, List.all_cons]

theorem allIntegersOfFields_eq_all (p : Int → Bool) (fields : List (Text × Json)) :
    allIntegersOfFields p fields = fields.all fun field => field.2.allIntegers p := by
  induction fields with
  | nil => rfl
  | cons field fields ih => rw [allIntegersOfFields, ih, List.all_cons]

theorem allIntegers_of_isTidy {depth : Nat} {j : Json} (htidy : IsTidy depth j) :
    j.allIntegers isWritable = true := by
  induction htidy with
  | null | bool b | text t => rfl
  | int hn => rw [allIntegers, hn]
  | array _ ih =>
      rw [allIntegers, allIntegersOfItems_eq_all]
      exact List.all_eq_true.mpr ih
  | object _ _ ih =>
      rw [allIntegers, allIntegersOfFields_eq_all]
      exact List.all_eq_true.mpr ih

variable {depth : Nat}

theorem IsTidy.fits {j : Json} (htidy : IsTidy depth j) : Fits depth j := by
  induction htidy with
  | null => exact .null
  | bool b => exact .bool b
  | int hn => exact .int hn
  | text t => exact .text t
  | array _ ih => exact .array ih
  | object _ _ ih => exact .object ih

/-- A tidy value is read again as it is if its texts are. -/
theorem HasJoinedText.reread_eq_self
    {j : Json} (hjoined : j.HasJoinedText) (htidy : IsTidy depth j) : j.reread = j := by
  induction htidy with
  | null | bool b | int hn => rfl
  | text t => rw [reread, hjoined t List.mem_cons_self]
  | @array depth items _ ih =>
      have hitems := hasJoinedText_array_iff.mp hjoined
      have hsame : items.map reread = items.map id :=
        List.map_congr_left fun item hitem => ih item hitem (hitems item hitem)
      rw [reread, rereadItems_eq_map, hsame, List.map_id]
  | @object depth fields hdistinct _ ih =>
      have hfields := hasJoinedText_object_iff.mp hjoined
      have hsame : fields.map (fun field => (field.1, field.2.reread)) = fields.map id :=
        List.map_congr_left fun field hfield =>
          Prod.ext rfl (ih field hfield (hfields field hfield).2)
      rw [reread_object_of_nodup (fun field hfield => (hfields field hfield).1) hdistinct, hsame,
        List.map_id]

theorem isTidy_array_map
    {α : Type} {encode : α → Json} {list : List α}
    (hlist : ∀ a ∈ list, IsTidy depth (encode a)) :
    IsTidy (depth + 1) (.array (list.map encode)) :=
  .array (List.forall_mem_map.mpr hlist)

/-- Fields with tidy values that are named in the order of some names, of which some may be
left out. -/
structure IsRecord (depth : Nat) (names : List String) (fields : List (Text × Json)) : Prop where
  named : (fields.map Prod.fst).Sublist (names.map ofString)
  tidy : ∀ field ∈ fields, IsTidy depth field.2

theorem isRecord_field (name : String) {value : Json} (hvalue : IsTidy depth value) :
    IsRecord depth [name] (field name value) where
  named := .refl _
  tidy := List.forall_mem_singleton.mpr hvalue

theorem isRecord_field?
    (name : String) {α : Type} {encode : α → Json} {value : Option α}
    (hvalue : ∀ a ∈ value, IsTidy depth (encode a)) :
    IsRecord depth [name] (field? name encode value) := by
  cases value with
  | none => exact ⟨List.nil_sublist _, List.forall_mem_nil _⟩
  | some a => exact isRecord_field name (hvalue a rfl)

theorem isRecord_text (name : String) (t : Text) : IsRecord depth [name] (field name (.text t)) :=
  isRecord_field name (.text t)

theorem isRecord_text? (name : String) (t : Option Text) :
    IsRecord depth [name] (field? name .text t) :=
  isRecord_field? name fun t _ => .text t

theorem isRecord_bool? (name : String) (b : Option Bool) :
    IsRecord depth [name] (field? name .bool b) :=
  isRecord_field? name fun b _ => .bool b

theorem IsRecord.append
    {names more : List String} {fields after : List (Text × Json)}
    (hfields : IsRecord depth names fields) (hafter : IsRecord depth more after) :
    IsRecord depth (names ++ more) (fields ++ after) where
  named := by
    rw [List.map_append, List.map_append]
    exact hfields.named.append hafter.named
  tidy := List.forall_mem_append.mpr ⟨hfields.tidy, hafter.tidy⟩

/-- Fields with different names make a tidy object. -/
theorem IsRecord.isTidy
    {names : List String} {fields : List (Text × Json)}
    (hfields : IsRecord depth names fields) (hdistinct : names.Nodup) :
    IsTidy (depth + 1) (.object fields) := by
  have hnames : (names.map ofString).Nodup :=
    List.Nodup.map (fun _ _ => ofString_inj.mp) hdistinct
  exact .object (hfields.named.nodup hnames) hfields.tidy

/-! ## Parts with a comma before each but the first -/

section Parts

variable {write : Json → Text} {after close : Text}

theorem spellsItems_flatMap
    (hafter : IsBlank after) (hclose : IsBlank close) {item : Json} {items : List Json}
    (hitems : ∀ j ∈ item :: items, Spells depth j.reread (write j)) :
    SpellsItems depth (rereadItems (item :: items))
      (write item ++ (items.flatMap (fun j => .char ',' :: (after ++ write j)) ++
        (close ++ [.char ']']))) := by
  induction items generalizing item with
  | nil => exact .last (hitems item List.mem_cons_self) hclose
  | cons next items ih =>
      have hrest := ih fun j hj => hitems j (List.mem_cons_of_mem item hj)
      have hcons := SpellsItems.cons (hitems item List.mem_cons_self) isBlank_nil hafter hrest
      simpa only [rereadItems, List.flatMap_cons, List.cons_append, List.append_assoc,
        List.nil_append] using hcons

variable {between : Text}

/-- A field with its value. -/
def writeField (write : Json → Text) (between : Text) (field : Text × Json) : Text :=
  textLiteral field.1 ++ .char ':' :: (between ++ write field.2)

theorem spellsFields_flatMap
    (hbetween : IsBlank between) (hafter : IsBlank after) (hclose : IsBlank close)
    {field : Text × Json} {fields : List (Text × Json)}
    (hvalues : ∀ f ∈ field :: fields, Spells depth f.2.reread (write f.2)) :
    SpellsFields depth (rereadFields (field :: fields))
      (writeField write between field ++
        (fields.flatMap (fun f => .char ',' :: (after ++ writeField write between f)) ++
          (close ++ [.char '\x7d']))) := by
  induction fields generalizing field with
  | nil =>
      have hlast : SpellsFields depth [(joined field.1, field.2.reread)] _ :=
        .last hbetween (hvalues field List.mem_cons_self) hclose
      simpa only [rereadFields, writeField, List.flatMap_nil, List.append_assoc, List.cons_append,
        List.nil_append] using hlast
  | cons next fields ih =>
      have hrest := ih fun f hf => hvalues f (List.mem_cons_of_mem field hf)
      have hcons : SpellsFields depth ((joined field.1, field.2.reread) :: _) _ :=
        .cons hbetween (hvalues field List.mem_cons_self) isBlank_nil hafter hrest
      simpa only [rereadFields, writeField, List.flatMap_cons, List.cons_append,
        List.append_assoc, List.nil_append] using hcons

end Parts

/-! ## The indented layout -/

theorem indentedItems_eq_flatMap (indent : Nat) (items : List Json) :
    indentedItems indent items =
      items.flatMap fun j => .char ',' :: (newLine indent ++ j.indented indent) := by
  induction items with
  | nil => rfl
  | cons item items ih =>
      rw [indentedItems, ih, List.flatMap_cons]
      simp [Text.concat, Text.ofString]

theorem indentedFields_eq_flatMap (indent : Nat) (fields : List (Text × Json)) :
    indentedFields indent fields =
      fields.flatMap fun f =>
        .char ',' :: (newLine indent ++ writeField (indented indent) [.char ' '] f) := by
  induction fields with
  | nil => rfl
  | cons field fields ih =>
      rw [indentedFields, ih, List.flatMap_cons]
      simp [Text.concat, Text.ofString, writeField]

/-- The lines of a value spell it as it is read again. -/
theorem Fits.spells_indented {j : Json} (hfits : Fits depth j) (indent : Nat) :
    Spells depth j.reread (j.indented indent) := by
  induction hfits generalizing indent with
  | null => exact .null
  | bool b => cases b <;> exact .bool _
  | int hn => exact .int hn
  | float x => exact .float x
  | text t => exact .text t
  | @array depth items _ ih =>
      cases items with
      | nil => exact .emptyArray
      | cons item items =>
          have harray := Spells.array (isBlank_newLine (indent + 2))
            (spellsItems_flatMap (isBlank_newLine (indent + 2)) (isBlank_newLine indent)
              fun j hj => ih j hj (indent + 2))
          simpa [reread, indented, indentedItems_eq_flatMap, Text.concat, Text.ofString]
            using harray
  | @object depth fields _ ih =>
      cases fields with
      | nil => exact .emptyObject
      | cons field fields =>
          have hblank : IsBlank [.char ' '] := List.forall_mem_singleton.mpr rfl
          have hobject := Spells.object (isBlank_newLine (indent + 2))
            (spellsFields_flatMap hblank (isBlank_newLine (indent + 2)) (isBlank_newLine indent)
              fun f hf => ih f hf (indent + 2))
          simpa [reread, indented, indentedFields_eq_flatMap, writeField, Text.concat,
            Text.ofString] using hobject

theorem spells_indented
    {j : Json} (htidy : IsTidy depth j) (hplain : j.HasPlainText) (indent : Nat) :
    Spells depth j (j.indented indent) := by
  have hspells := htidy.fits.spells_indented indent
  rwa [hplain.hasJoinedText.reread_eq_self htidy] at hspells

/-! ## The layout without blanks -/

theorem compactItems_eq_flatMap (items : List Json) :
    compactItems items = items.flatMap fun j => .char ',' :: compact j := by
  induction items with
  | nil => rfl
  | cons item items ih =>
      rw [compactItems, ih, List.flatMap_cons]
      simp [Text.concat, Text.ofString]

theorem compactFields_eq_flatMap (fields : List (Text × Json)) :
    compactFields fields =
      fields.flatMap fun f => .char ',' :: writeField compact [] f := by
  induction fields with
  | nil => rfl
  | cons field fields ih =>
      rw [compactFields, ih, List.flatMap_cons]
      simp [Text.concat, Text.ofString, writeField]

theorem compact_array_cons (item : Json) (items : List Json) :
    (array (item :: items)).compact =
      .char '[' :: (item.compact ++
        (items.flatMap (fun j => .char ',' :: compact j) ++ [.char ']'])) := by
  simp [compact, compactItems_eq_flatMap, Text.concat, Text.ofString]

theorem compact_object_cons (field : Text × Json) (fields : List (Text × Json)) :
    (object (field :: fields)).compact =
      .char '\x7b' :: (writeField compact [] field ++
        (fields.flatMap (fun f => .char ',' :: writeField compact [] f) ++ [.char '\x7d'])) := by
  simp [compact, compactFields_eq_flatMap, writeField, Text.concat, Text.ofString]

theorem Fits.spells_compact {j : Json} (hfits : Fits depth j) :
    Spells depth j.reread j.compact := by
  induction hfits with
  | null => exact .null
  | bool b => cases b <;> exact .bool _
  | int hn => exact .int hn
  | float x => exact .float x
  | text t => exact .text t
  | @array depth items _ ih =>
      cases items with
      | nil => exact .emptyArray
      | cons item items =>
          have harray := Spells.array isBlank_nil
            (spellsItems_flatMap isBlank_nil isBlank_nil ih)
          rw [compact_array_cons]
          exact harray
  | @object depth fields _ ih =>
      cases fields with
      | nil => exact .emptyObject
      | cons field fields =>
          have hobject := Spells.object isBlank_nil
            (spellsFields_flatMap isBlank_nil isBlank_nil isBlank_nil ih)
          rw [compact_object_cons]
          exact hobject

theorem spells_compact
    {j : Json} (htidy : IsTidy depth j) (hplain : j.HasPlainText) :
    Spells depth j j.compact := by
  have hspells := htidy.fits.spells_compact
  rwa [hplain.hasJoinedText.reread_eq_self htidy] at hspells

/-- A tidy value with plain texts is read back from its layout without blanks. -/
theorem read_compact [Machine]
    {j : Json} (htidy : IsTidy Machine.valueLevels j) (hplain : j.HasPlainText) :
    Json.read j.compact = .ok j := by
  have hread := read_of_spells (spells_compact htidy hplain) isBlank_nil
  rwa [List.append_nil] at hread

end Json
end ActorManifest
