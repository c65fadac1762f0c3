import ActorManifest.Proofs.Json.Sorted
import Mathlib.Logic.Relation

/-!
# Edits of no account

What the document of a spec says depends neither on the order of the fields of a mapping nor on
fields that no schema knows, and a field that is null says as much as one that is left out.  The
one place where order counts is the value of a variable, which becomes text as it is shown.  So it
depends on the part of the document which edits are of no account.

Such an edit leaves what stands under each known name as it is, unless it is made inside of it.
-/

namespace ActorManifest

namespace Spec

/-- The parts of the document of a spec. -/
inductive Part where
  | spec
  | partner
  | service
  | port
  | build
  /-- A mapping of variables. -/
  | environment
  | list (item : Part)
  /-- A part in which no mapping and no list is read. -/
  | other
deriving DecidableEq

namespace Part

/-- The fields of a part that is a record, with the parts that they hold. -/
def schema? : Part → Option (List (String × Part))
  | spec => some [
      ("name", other), ("description", other), ("image", other), ("command", other),
      ("repository", other), ("path", other), ("reference", other), ("commit", other),
      ("environments", environment), ("partners", list partner), ("services", list service),
      ("sync", other), ("build", build)]
  | partner => some [("name", other), ("repository", other), ("path", other), ("reference", other)]
  | service => some [("kind", other), ("ports", list port)]
  | port => some [("port", other), ("protocol", other), ("expose", other)]
  | build => some [
      ("context", other), ("env", environment), ("dockerfile", other), ("builder", other),
      ("buildpacks", list other)]
  | environment | list _ | other => none

/-- Whether a mapping is read in the part. -/
def readsMappings : Part → Bool
  | list _ | other => false
  | _ => true

/-- Whether a list is read in the part. -/
def readsLists : Part → Bool
  | list _ => true
  | _ => false

end Part

/-- An edit of a part of the document of a spec that is of no account. -/
inductive Edit : Part → Json → Json → Prop
  /-- The fields are put in another order. -/
  | order {part : Part} {fields others : List (Text × Json)}
      (hdistinct : (fields.map Prod.fst).Nodup) (hperm : fields.Perm others) :
      Edit part (.object fields) (.object others)
  /-- A field is added that the schema does not know. -/
  | foreign {part : Part} {schema : List (String × Part)} (hschema : part.schema? = some schema)
      (fields : List (Text × Json)) {name : Text} (value : Json)
      (hforeign : ∀ field ∈ schema, name ≠ Text.ofString field.1) :
      Edit part (.object fields) (.object (fields ++ [(name, value)]))
  /-- A field that was left out is added as null. -/
  | null {part : Part} {schema : List (String × Part)} (hschema : part.schema? = some schema)
      {fields : List (Text × Json)} {field : String × Part} (hfield : field ∈ schema)
      (habsent : Text.ofString field.1 ∉ fields.map Prod.fst) :
      Edit part (.object fields) (.object (fields ++ [(Text.ofString field.1, .null)]))
  /-- The edit is made inside of a field. -/
  | field {part : Part} {schema : List (String × Part)} (hschema : part.schema? = some schema)
      (before after : List (Text × Json)) {field : String × Part} (hfield : field ∈ schema)
      {j k : Json} (hedit : Edit field.2 j k) :
      Edit part (.object (before ++ (Text.ofString field.1, j) :: after))
        (.object (before ++ (Text.ofString field.1, k) :: after))
  /-- The edit is made inside of an item. -/
  | item {part : Part} (before after : List Json) {j k : Json} (hedit : Edit part j k) :
      Edit (.list part) (.array (before ++ j :: after)) (.array (before ++ k :: after))
  /-- The edit is made inside of a mapping that is not read. -/
  | unreadField {part : Part} (hunread : part.readsMappings = false)
      (before after : List (Text × Json)) (name : Text) {j k : Json} (hedit : Edit .other j k) :
      Edit part (.object (before ++ (name, j) :: after)) (.object (before ++ (name, k) :: after))
  /-- The edit is made inside of a list that is not read. -/
  | unreadItem {part : Part} (hunread : part.readsLists = false) (before after : List Json)
      {j k : Json} (hedit : Edit .other j k) :
      Edit part (.array (before ++ j :: after)) (.array (before ++ k :: after))

/-- The documents of specs differ by edits of no account. -/
def IsVariant : Json → Json → Prop :=
  Relation.EqvGen (Edit .spec)

end Spec

namespace Json

/-! ## What stands under the names of a schema -/

/-- The values are equal, or are two lists or two mappings. -/
def IsKindred (j k : Json) : Prop :=
  j = k ∨ (∃ items others, j = .array items ∧ k = .array others) ∨
    ∃ fields others, j = .object fields ∧ k = .object others

theorem IsKindred.refl (j : Json) : j.IsKindred j :=
  .inl rfl

/-- What is found under a name says the same: nothing or null, or values that are related. -/
inductive SaysSame (related : Json → Json → Prop) : Option Json → Option Json → Prop
  | unset {found other : Option Json} (hfound : found = none ∨ found = some .null)
      (hother : other = none ∨ other = some .null) : SaysSame related found other
  | set {j k : Json} (hrelated : related j k) : SaysSame related (some j) (some k)

namespace SaysSame

variable {related : Json → Json → Prop}

theorem refl (hrefl : ∀ j, related j j) (found : Option Json) : SaysSame related found found := by
  cases found with
  | none => exact .unset (.inl rfl) (.inl rfl)
  | some j => exact .set (hrefl j)

end SaysSame

theorem lookup_append_of_ne
    (fields : List (Text × Json)) {name key : Text} (value : Json) (hne : name ≠ key) :
    (fields ++ [(name, value)]).lookup key = fields.lookup key := by
  have hlast : ([(name, value)] : List (Text × Json)).lookup key = none := by
    simp [List.lookup_cons, beq_eq_false_iff_ne.mpr hne.symm]
  rw [List.lookup_append, hlast, Option.or_none]

theorem lookup_eq_none_of_not_mem
    {fields : List (Text × Json)} {name : Text} (hname : name ∉ fields.map Prod.fst) :
    fields.lookup name = none := by
  rw [List.lookup_eq_none_iff]
  intro field hfield
  exact bne_iff_ne.mpr fun heq => hname (List.mem_map.mpr ⟨field, hfield, heq.symm⟩)

variable {related : Json → Json → Prop} (hrefl : ∀ j, related j j)
include hrefl

/-- A field that is added as null says nothing under its name. -/
theorem saysSame_of_null
    {fields : List (Text × Json)} {name : Text} (habsent : name ∉ fields.map Prod.fst)
    (key : Text) :
    SaysSame related (fields.lookup key) ((fields ++ [(name, Json.null)]).lookup key) := by
  by_cases hkey : name = key
  · subst hkey
    refine .unset (.inl (lookup_eq_none_of_not_mem habsent)) (.inr ?_)
    rw [List.lookup_append, lookup_eq_none_of_not_mem habsent]
    simp
  · rw [lookup_append_of_ne fields _ hkey]
    exact .refl hrefl _

/-- An edit inside of a field leaves what stands under the other names as it is. -/
theorem saysSame_of_field
    {j k : Json} {name key : Text} (hinside : key = name → related j k)
    (before after : List (Text × Json)) :
    SaysSame related ((before ++ (name, j) :: after).lookup key)
      ((before ++ (name, k) :: after).lookup key) := by
  rw [List.lookup_append, List.lookup_append]
  cases before.lookup key with
  | some found => exact .set (hrefl found)
  | none =>
      rw [Option.none_or, Option.none_or, List.lookup_cons, List.lookup_cons]
      by_cases hkey : key = name
      · rw [beq_iff_eq.mpr hkey]
        exact .set (hinside hkey)
      · rw [beq_eq_false_iff_ne.mpr hkey]
        exact .refl hrefl _

end Json
end ActorManifest
