import ActorManifest.Proofs.Outcome
import ActorManifest.Proofs.Readings
import ActorManifest.Proofs.Spec.Canonical
import ActorManifest.Proofs.Spec.Edits
import ActorManifest.Proofs.Spec.Ports
import ActorManifest.Proofs.Spec.Schema
import ActorManifest.Proofs.Spec.Variables

/-!
# Variants of the document of a spec

A spec is read by looking up the names of a schema, so an edit of no account leaves the outcome as
it was, up to the order of variables, which a digest does not see.  Two values are read alike where
the readers of a part agree on them, be it on a refusal.  Each record agrees on objects that say
the same under all of its names, and by induction on the edit so do the documents around it.
-/

namespace ActorManifest

open Document Json

/-! ## What is looked up -/

namespace Document

theorem lookup?_ofJsonFields (name : Text) (fields : List (Text × Json)) :
    lookup? name (ofJsonFields fields) = (fields.lookup name).map ofJson := by
  induction fields with
  | nil => rfl
  | cons field fields ih =>
      rcases field with ⟨key, value⟩
      rw [List.lookup_cons]
      by_cases hkey : key = name
      · simp [lookup?, ofJsonFields, hkey]
      · rw [beq_eq_false_iff_ne.mpr (Ne.symm hkey), ← ih]
        simp [lookup?, ofJsonFields, hkey]

end Document

/-- Values of one kind are equal, or neither of them is a scalar. -/
theorem Json.IsKindred.eq_or_ne_scalar {j k : Json} (hkindred : j.IsKindred k) :
    j = k ∨ (∀ s, ofJson j ≠ .scalar s) ∧ ∀ s, ofJson k ≠ .scalar s := by
  rcases hkindred with heq | ⟨items, others, rfl, rfl⟩ | ⟨fields, others, rfl, rfl⟩
  · exact .inl heq
  · exact .inr ⟨by simp [ofJson], by simp [ofJson]⟩
  · exact .inr ⟨by simp [ofJson], by simp [ofJson]⟩

/-! ## Readers of fields that are unset -/

namespace Field

variable {owner : Owner} {field : String} {entries : DocumentEntries}

theorem filled_of_isUnset (hunset : IsUnset (lookup? field entries)) :
    filled owner field entries = .error (.notFilled owner field) := by
  unfold filled
  rcases hunset with hentry | hentry <;> rw [hentry]

theorem text?_of_isUnset (hunset : IsUnset (lookup? field entries)) :
    text? owner field entries = .ok none := by
  unfold text?
  rcases hunset with hentry | hentry <;> rw [hentry]

theorem bool?_of_isUnset [Machine] (hunset : IsUnset (lookup? field entries)) :
    bool? owner field entries = .ok none := by
  unfold bool?
  rcases hunset with hentry | hentry <;> rw [hentry]

theorem list?_of_isUnset
    {α : Type} {read : Document → Except Refusal α} (hunset : IsUnset (lookup? field entries)) :
    list? owner field read entries = .ok none := by
  unfold list?
  rcases hunset with hentry | hentry <;> rw [hentry]

theorem list?_of_items?
    {α : Type} {read : Document → Except Refusal α} {d : Document} {items : List Document}
    (hentry : lookup? field entries = some d) (hitems : d.items? = some items) :
    list? owner field read entries = (items.mapM read).map some := by
  unfold list?
  rw [hentry]
  split
  · cases ‹some d = none›
  · cases Option.some.inj ‹some d = some _›
    cases hitems
  · rename_i found _ hfound
    cases hfound
    rw [hitems]

theorem list?_of_items?_eq_none
    {α : Type} {read : Document → Except Refusal α} {d : Document}
    (hentry : lookup? field entries = some d) (hnull : d ≠ .null) (hitems : d.items? = none) :
    list? owner field read entries = .error (.notList owner field) := by
  unfold list?
  rw [hentry]
  split
  · cases ‹some d = none›
  · exact absurd (Option.some.inj ‹some d = some _›) hnull
  · rename_i found _ hfound
    cases hfound
    rw [hitems]

theorem variables?_of_isUnset [Machine] (hunset : IsUnset (lookup? field entries)) :
    variables? owner field entries = .ok none := by
  unfold variables?
  rcases hunset with hentry | hentry <;> rw [hentry]

theorem variables?_of_entries? [Machine]
    {d : Document} {items : DocumentEntries} (hentry : lookup? field entries = some d)
    (hitems : d.entries? = some items) :
    variables? owner field entries = (items.mapM (variableOf owner field)).map fun pairs =>
      some (Entries.ofList (· == ·) pairs) := by
  unfold variables?
  rw [hentry]
  split
  · cases ‹some d = none›
  · cases Option.some.inj ‹some d = some _›
    cases hitems
  · rename_i found _ hfound
    cases hfound
    rw [hitems]

end Field

theorem Spec.build?_of_isUnset [Machine]
    {entries : DocumentEntries} (hunset : IsUnset (lookup? "build" entries)) :
    build? entries = .ok none := by
  unfold build?
  rcases hunset with hentry | hentry <;> rw [hentry]

/-! ## Values that are read alike -/

namespace Spec

/-- The values are read alike as a part of the document of a spec, beyond being of one kind. -/
def Part.ReadsAlike [Machine] : Part → Json → Json → Prop
  | .spec, j, k =>
      Agree (fun s t : Spec => s.toJson.sorted = t.toJson.sorted)
        (Spec.ofDocument (ofJson j)) (Spec.ofDocument (ofJson k))
  | .partner, j, k => Agree (· = ·) (Partner.ofDocument (ofJson j)) (Partner.ofDocument (ofJson k))
  | .service, j, k => Agree (· = ·) (Service.ofDocument (ofJson j)) (Service.ofDocument (ofJson k))
  | .port, j, k => Agree (· = ·) (Port.ofDocument (ofJson j)) (Port.ofDocument (ofJson k))
  | .build, j, k =>
      Agree (fun b c : Build => b.toJson.sorted = c.toJson.sorted)
        (Build.ofDocument (ofJson j)) (Build.ofDocument (ofJson k))
  | .environment, j, k =>
      ∀ fields others, j = .object fields → k = .object others →
        fields = others ∨ (fields.map Prod.fst).Nodup ∧ fields.Perm others
  | .list item, j, k =>
      ∀ items others, j = .array items → k = .array others →
        List.Forall₂ (fun j k => j.IsKindred k ∧ item.ReadsAlike j k) items others
  | .other, _, _ => True

/-- The values are of one kind and are read alike as a part of the document of a spec. -/
def Part.Alike [Machine] (part : Part) (j k : Json) : Prop :=
  j.IsKindred k ∧ part.ReadsAlike j k

theorem Part.Alike.refl [Machine] (part : Part) (j : Json) : part.Alike j j := by
  refine ⟨.refl j, ?_⟩
  induction part generalizing j with
  | spec | build => exact Agree.refl (fun a => Eq.refl a.toJson.sorted) _
  | partner | service | port => exact Agree.refl (fun _ => rfl) _
  | environment =>
      rintro fields _ rfl ⟨rfl⟩
      exact .inl rfl
  | list item ih =>
      rintro items _ rfl ⟨rfl⟩
      exact List.forall₂_same.mpr fun j _ => ⟨.refl j, ih j⟩
  | other => trivial

/-- Two objects say the same under a name whose value is a part of the document of a spec. -/
def SayAlike [Machine] (part : Part) (field : String) (fields others : List (Text × Json)) : Prop :=
  SaysSame part.Alike (fields.lookup (Text.ofString field)) (others.lookup (Text.ofString field))

/-- Either nothing is set under the name, or both objects hold values that are read alike. -/
theorem SayAlike.lookup? [Machine]
    {part : Part} {field : String} {fields others : List (Text × Json)}
    (hsame : SayAlike part field fields others) :
    (IsUnset (lookup? field (ofJsonFields fields)) ∧
        IsUnset (lookup? field (ofJsonFields others))) ∨
      ∃ j k, part.Alike j k ∧ lookup? field (ofJsonFields fields) = some (ofJson j) ∧
        lookup? field (ofJsonFields others) = some (ofJson k) := by
  rw [lookup?_ofJsonFields, lookup?_ofJsonFields]
  unfold SayAlike at hsame
  generalize fields.lookup (Text.ofString field) = found at hsame
  generalize others.lookup (Text.ofString field) = other at hsame
  cases hsame with
  | unset hfound hother =>
      have hunset : ∀ {found : Option Json}, found = none ∨ found = some .null →
          IsUnset (found.map ofJson) := by
        rintro _ (rfl | rfl)
        · exact .inl rfl
        · exact .inr rfl
      exact .inl ⟨hunset hfound, hunset hother⟩
  | set hrelated => exact .inr ⟨_, _, hrelated, rfl, rfl⟩

end Spec

open Spec

/-! ## Readers of fields -/

namespace Field

variable {owner : Owner} {field : String} {fields others : List (Text × Json)}

/-- A reader looks at nothing but what stands in its field, and refuses what is no scalar. -/
structure IsScalarReader
    {α : Type} (field : String) (read : DocumentEntries → Except Refusal α) : Prop where
  looksAtField : ∀ {entries others},
    lookup? field entries = lookup? field others → read entries = read others
  unset : ∀ {entries others}, IsUnset (lookup? field entries) → IsUnset (lookup? field others) →
    Agree (· = ·) (read entries) (read others)
  refused : ∀ {entries d}, lookup? field entries = some d → (∀ s, d ≠ .scalar s) →
    ∃ refusal, read entries = .error refusal

/-- What refuses all but scalars agrees on values that are alike. -/
theorem agree_of_alike [Machine]
    {α : Type} (read : Document → Except Refusal α)
    (hrefused : ∀ d, (∀ s, d ≠ .scalar s) → ∃ refusal, read d = .error refusal) {j k : Json}
    (halike : Part.other.Alike j k) :
    Agree (· = ·) (read (ofJson j)) (read (ofJson k)) := by
  rcases halike.1.eq_or_ne_scalar with rfl | ⟨hj, hk⟩
  · exact .refl (fun _ => rfl) _
  · obtain ⟨refusal, hrefusal⟩ := hrefused _ hj
    obtain ⟨refusal', hrefusal'⟩ := hrefused _ hk
    rw [hrefusal, hrefusal']
    exact .failed _ _

theorem IsScalarReader.agree [Machine]
    {α : Type} {read : DocumentEntries → Except Refusal α} (hreader : IsScalarReader field read)
    (hsame : SayAlike .other field fields others) :
    Agree (· = ·) (read (ofJsonFields fields)) (read (ofJsonFields others)) := by
  rcases hsame.lookup? with ⟨hfound, hother⟩ | ⟨j, k, halike, hj, hk⟩
  · exact hreader.unset hfound hother
  · -- What is read depends on the value in the field, as if no other field were there.
    have halone : ∀ d : Document, lookup? field [(.text field, d)] = some d := by simp [lookup?]
    rw [hreader.looksAtField (hj.trans (halone _).symm),
      hreader.looksAtField (hk.trans (halone _).symm)]
    exact agree_of_alike (fun d => read [(.text field, d)])
      (fun d hd => hreader.refused (halone d) hd) halike

theorem isScalarReader_filled : IsScalarReader field (filled owner field) where
  looksAtField heq := by rw [filled, filled, heq]
  unset hfound hother := by
    rw [filled_of_isUnset hfound, filled_of_isUnset hother]
    exact .failed _ _
  refused hentry hd := by
    unfold filled
    rw [hentry]
    split
    · exact absurd (Option.some.inj ‹some _ = _›) (hd _)
    · exact ⟨_, rfl⟩

theorem isScalarReader_text? : IsScalarReader field (text? owner field) where
  looksAtField heq := by rw [text?, text?, heq]
  unset hfound hother := by
    rw [text?_of_isUnset hfound, text?_of_isUnset hother]
    exact .done rfl
  refused hentry hd := by
    unfold text?
    rw [hentry]
    split
    · cases ‹some _ = none›
    · exact absurd (Option.some.inj ‹some _ = _›) (hd _)
    · exact absurd (Option.some.inj ‹some _ = _›) (hd _)
    · exact ⟨_, rfl⟩

theorem isScalarReader_bool? [Machine] : IsScalarReader field (bool? owner field) where
  looksAtField heq := by rw [bool?, bool?, heq]
  unset hfound hother := by
    rw [bool?_of_isUnset hfound, bool?_of_isUnset hother]
    exact .done rfl
  refused hentry hd := by
    unfold bool?
    rw [hentry]
    split
    · cases ‹some _ = none›
    · exact absurd (Option.some.inj ‹some _ = _›) (hd _)
    · exact absurd (Option.some.inj ‹some _ = _›) (hd _)
    · exact ⟨_, rfl⟩

theorem agree_textOrEmpty [Machine] (hsame : SayAlike .other field fields others) :
    Agree (· = ·) (textOrEmpty owner field (ofJsonFields fields))
      (textOrEmpty owner field (ofJsonFields others)) :=
  (isScalarReader_text?.agree hsame).map fun _ _ _ _ heq => congrArg (fun t => Option.getD t []) heq

/-- Lists whose items are read alike are read alike. -/
theorem agree_mapM [Machine]
    {α : Type} {read : Document → Except Refusal α} {item : Part} {items others : List Json}
    (hread : ∀ j k, item.Alike j k → Agree (· = ·) (read (ofJson j)) (read (ofJson k)))
    (halike : (Part.list item).Alike (.array items) (.array others)) :
    Agree (· = ·) ((items.map ofJson).mapM read) ((others.map ofJson).mapM read) := by
  refine .mapM ?_
  rw [List.forall₂_map_left_iff, List.forall₂_map_right_iff]
  exact (halike.2 items others rfl rfl).imp hread

theorem agree_list? [Machine]
    {α : Type} {read : Document → Except Refusal α} {item : Part}
    (hread : ∀ j k, item.Alike j k → Agree (· = ·) (read (ofJson j)) (read (ofJson k)))
    (hsame : SayAlike (.list item) field fields others) :
    Agree (· = ·) (list? owner field read (ofJsonFields fields))
      (list? owner field read (ofJsonFields others)) := by
  rcases hsame.lookup? with ⟨hfound, hother⟩ | ⟨j, k, halike, hj, hk⟩
  · rw [list?_of_isUnset hfound, list?_of_isUnset hother]
    exact .done rfl
  · rcases halike.1 with rfl | ⟨_, _, rfl, rfl⟩ | ⟨_, _, rfl, rfl⟩
    · unfold list?
      rw [hj, hk]
      exact .refl (fun _ => rfl) _
    · rw [list?_of_items? hj (items?_ofJson_array _), list?_of_items? hk (items?_ofJson_array _)]
      exact (agree_mapM hread halike).map fun _ _ _ _ heq => congrArg some heq
    · unfold list?
      rw [hj, hk]
      exact .failed _ _

/-! ## Variables -/

/-- The variables of an object have the names of its fields. -/
theorem names_of_mapM_variableOf [Machine]
    {pairs : List (Text × Text)}
    (hread : (ofJsonFields fields).mapM (variableOf owner field) = .ok pairs) :
    pairs.map Prod.fst = fields.map Prod.fst := by
  rw [mapM_eq_ok_iff, ofJsonFields_eq_map, List.forall₂_map_left_iff] at hread
  have hnames : List.Forall₂ (fun f pair => f.1 = pair.1) fields pairs := by
    refine hread.imp fun f pair hpair => ?_
    exact Option.some.inj (EnvVar.isDeclaredBy_of_variableOf hpair).name
  have heq : List.Forall₂ (· = ·) (fields.map Prod.fst) (pairs.map Prod.fst) := by
    rwa [List.forall₂_map_left_iff, List.forall₂_map_right_iff]
  exact (List.forall₂_eq_eq_eq ▸ heq).symm

theorem agree_variables? [Machine] (hsame : SayAlike .environment field fields others) :
    Agree (fun a b => a.map (sorted ∘ variablesToJson) = b.map (sorted ∘ variablesToJson))
      (variables? owner field (ofJsonFields fields))
      (variables? owner field (ofJsonFields others)) := by
  rcases hsame.lookup? with ⟨hfound, hother⟩ | ⟨j, k, halike, hj, hk⟩
  · rw [variables?_of_isUnset hfound, variables?_of_isUnset hother]
    exact .done rfl
  · have hrefl : ∀ a : Option (Entries Text Text),
        a.map (sorted ∘ variablesToJson) = a.map (sorted ∘ variablesToJson) := fun _ => rfl
    rcases halike.1 with rfl | ⟨_, _, rfl, rfl⟩ | ⟨fields, others, rfl, rfl⟩
    · unfold variables?
      rw [hj, hk]
      exact .refl hrefl _
    · unfold variables?
      rw [hj, hk]
      exact .failed _ _
    · rw [variables?_of_entries? hj (entries?_ofJson_object _),
        variables?_of_entries? hk (entries?_ofJson_object _)]
      rcases halike.2 fields others rfl rfl with rfl | ⟨hdistinct, hperm⟩
      · exact .refl hrefl _
      · have hentries : (ofJsonFields fields).Perm (ofJsonFields others) := by
          rw [ofJsonFields_eq_map, ofJsonFields_eq_map]
          exact hperm.map _
        refine (Agree.mapM_of_perm (variableOf owner field) hentries).map ?_
        intro pairs pairs' hpairs hpairs' hsame
        have hnames : (pairs.map Prod.fst).Nodup := by rwa [names_of_mapM_variableOf hpairs]
        have hnames' : (pairs'.map Prod.fst).Nodup := (hsame.map _).nodup_iff.mp hnames
        rw [Entries.ofList_of_nodup hnames, Entries.ofList_of_nodup hnames']
        refine congrArg some (sorted_object_of_perm (hsame.map _) ?_)
        rw [List.map_map]
        exact hnames

end Field

/-! ## Readers of records -/

variable {fields others : List (Text × Json)}

/-- Two objects say the same under all names of a record. -/
def Spec.AllSayAlike [Machine] (part : Part) (fields others : List (Text × Json)) : Prop :=
  ∀ schema, part.schema? = some schema →
    ∀ field ∈ schema, SayAlike field.2 field.1 fields others

theorem agree_record
    {α : Type} {related : α → α → Prop} {owner : Owner} {read : DocumentEntries → Except Refusal α}
    (hread : Agree related (read (ofJsonFields fields)) (read (ofJsonFields others))) :
    Agree related (entriesOf owner (ofJson (.object fields)) >>= read)
      (entriesOf owner (ofJson (.object others)) >>= read) :=
  hread

theorem Partner.agree_ofDocument [Machine] (hsame : AllSayAlike .partner fields others) :
    Agree (· = ·) (ofDocument (ofJson (.object fields))) (ofDocument (ofJson (.object others))) := by
  have hname : SayAlike .other "name" fields others := hsame _ rfl ("name", .other) (by decide)
  have hrepository := hsame _ rfl ("repository", .other) (by decide)
  have hpath := hsame _ rfl ("path", .other) (by decide)
  have hreference := hsame _ rfl ("reference", .other) (by decide)
  refine agree_record (.bind (Field.isScalarReader_filled.agree hname) ?_)
  rintro name _ rfl
  refine .bind (Field.isScalarReader_filled.agree hrepository) ?_
  rintro repository _ rfl
  refine .bind (Field.isScalarReader_text?.agree hpath) ?_
  rintro path _ rfl
  refine .bind (Field.isScalarReader_text?.agree hreference) ?_
  rintro reference _ rfl
  exact .done rfl

theorem Port.agree_ofParts [Machine] {j k : Json} (halike : Part.other.Alike j k)
    (protocol : Option Text) (expose : Option Bool) :
    Agree (· = ·) (ofParts (ofJson j) protocol expose) (ofParts (ofJson k) protocol expose) := by
  refine Field.agree_of_alike (fun d => ofParts d protocol expose) (fun d hd => ?_) halike
  unfold ofParts
  split
  · exact absurd rfl (hd _)
  · exact ⟨_, rfl⟩

/-- A port without a number is refused. -/
theorem Port.exists_error_of_isUnset [Machine]
    (hunset : IsUnset (lookup? "port" (ofJsonFields fields))) :
    ∃ refusal, ofDocument (ofJson (.object fields)) = .error refusal := by
  cases hread : ofDocument (ofJson (.object fields)) with
  | error refusal => exact ⟨refusal, rfl⟩
  | ok port =>
      have hnumber := (isDeclaredBy_of_ofDocument hread).number
      rw [under?_eq (entries?_ofJson_object fields)] at hnumber
      rcases hunset with hnone | hnull
      · rw [hnone] at hnumber
        cases hnumber
      · rw [hnull] at hnumber
        cases hnumber

theorem Port.agree_ofDocument [Machine] (hsame : AllSayAlike .port fields others) :
    Agree (· = ·) (ofDocument (ofJson (.object fields))) (ofDocument (ofJson (.object others))) := by
  have hport : SayAlike .other "port" fields others := hsame _ rfl ("port", .other) (by decide)
  have hprotocol := hsame _ rfl ("protocol", .other) (by decide)
  have hexpose := hsame _ rfl ("expose", .other) (by decide)
  rcases hport.lookup? with ⟨hfound, hother⟩ | ⟨j, k, halike, hj, hk⟩
  · obtain ⟨refusal, hrefusal⟩ := exists_error_of_isUnset hfound
    obtain ⟨refusal', hrefusal'⟩ := exists_error_of_isUnset hother
    rw [hrefusal, hrefusal']
    exact .failed _ _
  · refine agree_record ?_
    rw [hj, hk]
    refine .bind (Field.isScalarReader_bool?.agree hexpose) ?_
    rintro expose _ rfl
    refine .bind (Field.isScalarReader_text?.agree hprotocol) ?_
    rintro protocol _ rfl
    exact agree_ofParts halike protocol expose

/-- Lists whose items are read alike are read alike, and only one of them is no list if the other
is none. -/
theorem items?_of_alike [Machine]
    {α : Type} {read : Document → Except Refusal α} {item : Part}
    (hread : ∀ j k, item.Alike j k → Agree (· = ·) (read (ofJson j)) (read (ofJson k)))
    {j k : Json} (halike : (Part.list item).Alike j k) :
    ((ofJson j).items? = none ∧ (ofJson k).items? = none) ∨
      ∃ items others, (ofJson j).items? = some items ∧ (ofJson k).items? = some others ∧
        Agree (· = ·) (items.mapM read) (others.mapM read) := by
  rcases halike.1 with rfl | ⟨items, others, rfl, rfl⟩ | ⟨_, _, rfl, rfl⟩
  · cases hitems : (ofJson j).items? with
    | none => exact .inl ⟨rfl, rfl⟩
    | some items => exact .inr ⟨items, items, rfl, rfl, .refl (fun _ => rfl) _⟩
  · exact .inr ⟨_, _, items?_ofJson_array items, items?_ofJson_array others,
      Field.agree_mapM hread halike⟩
  · exact .inl ⟨rfl, rfl⟩

theorem Service.agree_ofDocument [Machine]
    (hread : ∀ j k, Part.port.Alike j k →
      Agree (· = ·) (Port.ofDocument (ofJson j)) (Port.ofDocument (ofJson k)))
    (hsame : AllSayAlike .service fields others) :
    Agree (· = ·) (ofDocument (ofJson (.object fields))) (ofDocument (ofJson (.object others))) := by
  have hkind := hsame _ rfl ("kind", .other) (by decide)
  have hports : SayAlike (.list .port) "ports" fields others :=
    hsame _ rfl ("ports", .list .port) (by decide)
  refine agree_record ?_
  rcases hports.lookup? with ⟨hfound, hother⟩ | ⟨j, k, halike, hj, hk⟩
  · rw [hfound.bind_items?, hother.bind_items?]
    exact .failed _ _
  · rw [hj, hk, Option.bind_some, Option.bind_some]
    rcases items?_of_alike hread halike with ⟨hitems, hothers⟩ | ⟨_, _, hitems, hothers, hagree⟩
    · rw [hitems, hothers]
      exact .failed _ _
    · rw [hitems, hothers]
      refine .bind hagree ?_
      rintro ports _ rfl
      refine .bind (Field.isScalarReader_text?.agree hkind) ?_
      rintro kind _ rfl
      exact .done rfl

/-- Buildpacks are a list of texts, though they are refused in words of their own. -/
theorem Build.agree_packs?_list? (entries : DocumentEntries) :
    Agree (· = ·) (packs? entries) (Field.list? .build "buildpacks" packOf entries) := by
  unfold packs?
  split
  · rename_i hentry
    rw [Field.list?_of_isUnset (.inl hentry)]
    exact .done rfl
  · rename_i hentry
    rw [Field.list?_of_isUnset (.inr hentry)]
    exact .done rfl
  · rename_i d hnull hentry
    split
    · rename_i items hitems
      rw [Field.list?_of_items? hentry hitems]
      exact .refl (fun _ => rfl) _
    · rename_i hitems
      rw [Field.list?_of_items?_eq_none hentry hnull hitems]
      exact .failed _ _

theorem Build.agree_packOf [Machine] {j k : Json} (halike : Part.other.Alike j k) :
    Agree (· = ·) (packOf (ofJson j)) (packOf (ofJson k)) := by
  refine Field.agree_of_alike packOf (fun d hd => ?_) halike
  unfold packOf
  split
  · exact absurd rfl (hd _)
  · exact ⟨_, rfl⟩

theorem Build.agree_packs? [Machine] (hsame : SayAlike (.list .other) "buildpacks" fields others) :
    Agree (· = ·) (packs? (ofJsonFields fields)) (packs? (ofJsonFields others)) := by
  have hlist : Agree (· = ·) (Field.list? .build "buildpacks" packOf (ofJsonFields fields))
      (Field.list? .build "buildpacks" packOf (ofJsonFields others)) :=
    Field.agree_list? (fun _ _ => agree_packOf) hsame
  exact (agree_packs?_list? _).trans Eq.trans
    (hlist.trans Eq.trans ((agree_packs?_list? _).symm Eq.symm))

theorem Build.agree_ofDocument [Machine] (hsame : AllSayAlike .build fields others) :
    Agree (fun b c => b.toJson.sorted = c.toJson.sorted) (ofDocument (ofJson (.object fields)))
      (ofDocument (ofJson (.object others))) := by
  have hpacks := hsame _ rfl ("buildpacks", .list .other) (by decide)
  have hcontext := hsame _ rfl ("context", .other) (by decide)
  have henv := hsame _ rfl ("env", .environment) (by decide)
  have hdockerfile := hsame _ rfl ("dockerfile", .other) (by decide)
  have hbuilder := hsame _ rfl ("builder", .other) (by decide)
  refine agree_record (.bind (agree_packs? hpacks) ?_)
  rintro packs _ rfl
  refine .bind (Field.isScalarReader_text?.agree hcontext) ?_
  rintro context _ rfl
  refine .bind (Field.agree_variables? henv) fun env env' henv => ?_
  refine .bind (Field.isScalarReader_text?.agree hdockerfile) ?_
  rintro dockerfile _ rfl
  refine .bind (Field.isScalarReader_text?.agree hbuilder) ?_
  rintro builder _ rfl
  refine .done (sorted_object_of_sortedFields_eq ?_)
  simp only [sortedFields_append, sortedFields_field?, henv]

namespace Spec

theorem agree_build? [Machine] (hsame : SayAlike .build "build" fields others) :
    Agree (fun a b => a.map (sorted ∘ Build.toJson) = b.map (sorted ∘ Build.toJson))
      (build? (ofJsonFields fields)) (build? (ofJsonFields others)) := by
  rcases hsame.lookup? with ⟨hfound, hother⟩ | ⟨j, k, halike, hj, hk⟩
  · rw [build?_of_isUnset hfound, build?_of_isUnset hother]
    exact .done rfl
  · have hbuilds : Agree (fun a b => a.map (sorted ∘ Build.toJson) = b.map (sorted ∘ Build.toJson))
        ((Build.ofDocument (ofJson j)).map some) ((Build.ofDocument (ofJson k)).map some) :=
      Agree.map halike.2 fun _ _ _ _ heq => congrArg some heq
    unfold build?
    rw [hj, hk]
    rcases halike.1 with rfl | ⟨_, _, rfl, rfl⟩ | ⟨_, _, rfl, rfl⟩
    · exact .refl (fun a => Eq.refl (a.map (sorted ∘ Build.toJson))) _
    · exact hbuilds
    · exact hbuilds

theorem agree_ofDocument [Machine]
    (hpartner : ∀ j k, Part.partner.Alike j k →
      Agree (· = ·) (Partner.ofDocument (ofJson j)) (Partner.ofDocument (ofJson k)))
    (hservice : ∀ j k, Part.service.Alike j k →
      Agree (· = ·) (Service.ofDocument (ofJson j)) (Service.ofDocument (ofJson k)))
    (hsame : AllSayAlike .spec fields others) :
    Agree (fun s t => s.toJson.sorted = t.toJson.sorted) (ofDocument (ofJson (.object fields)))
      (ofDocument (ofJson (.object others))) := by
  have hpartners := hsame _ rfl ("partners", .list .partner) (by decide)
  have hservices := hsame _ rfl ("services", .list .service) (by decide)
  have hsync := hsame _ rfl ("sync", .other) (by decide)
  have hname := hsame _ rfl ("name", .other) (by decide)
  have hrepository := hsame _ rfl ("repository", .other) (by decide)
  have hcommit := hsame _ rfl ("commit", .other) (by decide)
  have hdescription := hsame _ rfl ("description", .other) (by decide)
  have himage := hsame _ rfl ("image", .other) (by decide)
  have hcommand := hsame _ rfl ("command", .other) (by decide)
  have hpath := hsame _ rfl ("path", .other) (by decide)
  have hreference := hsame _ rfl ("reference", .other) (by decide)
  have henvironments := hsame _ rfl ("environments", .environment) (by decide)
  have hbuild := hsame _ rfl ("build", .build) (by decide)
  refine agree_record (.bind (Field.agree_list? hpartner hpartners) ?_)
  rintro partners _ rfl
  refine .bind (Field.agree_list? hservice hservices) ?_
  rintro services _ rfl
  refine .bind (Field.isScalarReader_bool?.agree hsync) ?_
  rintro sync _ rfl
  refine .bind (Field.isScalarReader_filled.agree hname) ?_
  rintro name _ rfl
  refine .bind (Field.isScalarReader_filled.agree hrepository) ?_
  rintro repository _ rfl
  refine .bind (Field.isScalarReader_filled.agree hcommit) ?_
  rintro commit _ rfl
  refine .bind (Field.agree_textOrEmpty hdescription) ?_
  rintro description _ rfl
  refine .bind (Field.agree_textOrEmpty himage) ?_
  rintro image _ rfl
  refine .bind (Field.isScalarReader_text?.agree hcommand) ?_
  rintro command _ rfl
  refine .bind (Field.isScalarReader_text?.agree hpath) ?_
  rintro path _ rfl
  refine .bind (Field.isScalarReader_text?.agree hreference) ?_
  rintro reference _ rfl
  refine .bind (Field.agree_variables? henvironments) fun environments environments' henv => ?_
  refine .bind (agree_build? hbuild) fun build build' hbuild => ?_
  refine .done (sorted_object_of_sortedFields_eq ?_)
  simp only [sortedFields_append, sortedFields_field?, henv, hbuild]

/-! ## Edits -/

theorem Part.nodup_schema {part : Part} {schema : List (String × Part)}
    (hschema : part.schema? = some schema) : (schema.map Prod.fst).Nodup := by
  cases part <;> cases hschema <;> decide

/-- Objects that say the same under all names of a record are read alike. -/
theorem Part.alike_object [Machine]
    {part : Part} {schema : List (String × Part)} (hschema : part.schema? = some schema)
    (hfields : ∀ field ∈ schema, SayAlike field.2 field.1 fields others) :
    part.Alike (.object fields) (.object others) := by
  have hsame : AllSayAlike part fields others := by
    intro known hknown
    rw [hschema] at hknown
    cases hknown
    exact hfields
  refine ⟨.inr (.inr ⟨fields, others, rfl, rfl⟩), ?_⟩
  cases part with
  | partner => exact Partner.agree_ofDocument hsame
  | port => exact Port.agree_ofDocument hsame
  | service => exact Service.agree_ofDocument (fun _ _ halike => halike.2) hsame
  | build => exact Build.agree_ofDocument hsame
  | spec =>
      exact agree_ofDocument (fun _ _ halike => halike.2) (fun _ _ halike => halike.2) hsame
  | environment | list | other => cases hschema

/-- A list is read in no other part than a list, and so any two are read alike there. -/
theorem Part.alike_array [Machine]
    {part : Part} (hunread : part.readsLists = false) (items others : List Json) :
    part.Alike (.array items) (.array others) := by
  refine ⟨.inr (.inl ⟨items, others, rfl, rfl⟩), ?_⟩
  cases part with
  | spec | partner | service | port | build => exact .failed _ _
  | environment => nofun
  | list => cases hunread
  | other => trivial

theorem forall₂_append_cons
    {α : Type} {related : α → α → Prop} (hrefl : ∀ a, related a a) (before after : List α)
    {a b : α} (hrelated : related a b) :
    List.Forall₂ related (before ++ a :: after) (before ++ b :: after) :=
  List.rel_append (List.forall₂_same.mpr fun c _ => hrefl c)
    (.cons hrelated (List.forall₂_same.mpr fun c _ => hrefl c))

/-- An edit of no account leaves a part to be read alike. -/
theorem Edit.alike [Machine]
    {part : Part} {j k : Json} (hedit : Edit part j k) : part.Alike j k := by
  induction hedit with
  | @order part fields others hdistinct hperm =>
      cases hschema : part.schema? with
      | some schema =>
          refine Part.alike_object hschema fun field _ => ?_
          rw [SayAlike, lookup_of_perm hperm hdistinct]
          exact .refl (Part.Alike.refl _) _
      | none =>
          refine ⟨.inr (.inr ⟨fields, others, rfl, rfl⟩), ?_⟩
          cases part with
          | environment =>
              rintro _ _ ⟨rfl⟩ ⟨rfl⟩
              exact .inr ⟨hdistinct, hperm⟩
          | list => nofun
          | other => trivial
          | spec | partner | service | port | build => cases hschema
  | foreign hschema fields value hforeign =>
      refine Part.alike_object hschema fun field hfield => ?_
      rw [SayAlike, lookup_append_of_ne fields value (hforeign field hfield)]
      exact .refl (Part.Alike.refl _) _
  | null hschema _ habsent =>
      exact Part.alike_object hschema fun field _ =>
        saysSame_of_null (Part.Alike.refl _) habsent (Text.ofString field.1)
  | @field part schema hschema before after field hfield j k _ ih =>
      refine Part.alike_object hschema fun other hother => ?_
      refine saysSame_of_field (Part.Alike.refl _) (fun hname => ?_) before after
      -- A schema has no name twice, so the part under this name is the one that was edited.
      have heq : other = field := List.inj_on_of_nodup_map (Part.nodup_schema hschema) hother
        hfield (Text.ofString_inj.mp hname)
      rw [heq]
      exact ih
  | @item part before after j k _ ih =>
      refine ⟨.inr (.inl ⟨_, _, rfl, rfl⟩), ?_⟩
      rintro _ _ ⟨rfl⟩ ⟨rfl⟩
      exact forall₂_append_cons (Part.Alike.refl part) before after ih
  | @unreadField part hunread before after name j k _ _ =>
      refine ⟨.inr (.inr ⟨_, _, rfl, rfl⟩), ?_⟩
      cases part with
      | list => nofun
      | other => trivial
      | spec | partner | service | port | build | environment => cases hunread
  | unreadItem hunread => exact Part.alike_array hunread _ _

/-- Variants are both refused, or their specs have one sorted form. -/
theorem IsVariant.agree [Machine] {j k : Json} (hvariant : IsVariant j k) :
    Agree (fun s t => s.toJson.sorted = t.toJson.sorted) (ofDocument (ofJson j))
      (ofDocument (ofJson k)) := by
  induction hvariant with
  | rel _ _ hedit => exact hedit.alike.2
  | refl j => exact .refl (fun s => Eq.refl s.toJson.sorted) _
  | symm _ _ _ ih => exact ih.symm Eq.symm
  | trans _ _ _ _ _ ih ih' => exact ih.trans Eq.trans ih'

end Spec

end ActorManifest
