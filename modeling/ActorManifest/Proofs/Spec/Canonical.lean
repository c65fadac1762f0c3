import ActorManifest.Proofs.Json.Octets
import ActorManifest.Proofs.Spec.Tidy

/-!
# Canonical forms tell specs apart

Two specs have one canonical form exactly if they are equal up to the order of their variables.
A record is determined by the sorted form of what it is written to: what stands under each name
determines the field of that name.  Only variables have an order that sorting forgets, and
equality of specs forgets the same.
-/

namespace ActorManifest

open Json

/-! ## Encodings that determine what they encode -/

namespace Json

/-- What is encoded is determined by the sorted form of its encoding. -/
def IsFaithful {α : Type} (encode : α → Json) : Prop :=
  Function.Injective fun a => (encode a).sorted

theorem isFaithful_text : IsFaithful .text :=
  fun _ _ => Json.text.inj

theorem isFaithful_int : IsFaithful .int :=
  fun _ _ => Json.int.inj

theorem isFaithful_bool : IsFaithful .bool :=
  fun _ _ => Json.bool.inj

variable {α : Type} {encode : α → Json}

theorem isFaithful_array (hencode : IsFaithful encode) :
    IsFaithful fun list : List α => .array (list.map encode) := by
  intro list others heq
  change (Json.array (list.map encode)).sorted = (Json.array (others.map encode)).sorted at heq
  rw [sorted_array, sorted_array, List.map_map, List.map_map] at heq
  exact List.map_injective_iff.mpr hencode (Json.array.inj heq)

theorem IsFaithful.option
    (hencode : IsFaithful encode) {value other : Option α}
    (heq : (value.map encode).map sorted = (other.map encode).map sorted) : value = other := by
  rw [Option.map_map, Option.map_map] at heq
  exact Option.map_injective hencode heq

end Json

/-! ## Records without variables -/

theorem Partner.isFaithful_toJson : IsFaithful Partner.toJson := by
  intro p q heq
  have htidy : IsTidy 1 p.toJson := p.isTidy_toJson
  have hlookup := lookup_of_sorted_eq htidy heq
  simp only [List.lookup_append] at hlookup
  have hname : p.name = q.name := isFaithful_text (by simpa using hlookup "name")
  have hrepository : p.repository = q.repository :=
    isFaithful_text (by simpa using hlookup "repository")
  have hpath : p.path = q.path := isFaithful_text.option (by simpa using hlookup "path")
  have hreference : p.reference = q.reference :=
    isFaithful_text.option (by simpa using hlookup "reference")
  cases p
  cases q
  exact Partner.mk.injEq .. ▸ ⟨hname, hrepository, hpath, hreference⟩

theorem Port.isFaithful_toJson : IsFaithful Port.toJson := by
  intro p q heq
  have htidy : IsTidy 1 p.toJson := p.isTidy_toJson
  have hlookup := lookup_of_sorted_eq htidy heq
  simp only [List.lookup_append] at hlookup
  have hnumber : p.number = q.number := isFaithful_int (by simpa using hlookup "port")
  have hprotocol : p.protocol = q.protocol :=
    isFaithful_text.option (by simpa using hlookup "protocol")
  have hexpose : p.expose = q.expose := isFaithful_bool.option (by simpa using hlookup "expose")
  cases p
  cases q
  exact Port.mk.injEq .. ▸ ⟨hnumber, hprotocol, hexpose⟩

theorem Service.isFaithful_toJson : IsFaithful Service.toJson := by
  intro s t heq
  have htidy : IsTidy 3 s.toJson := s.isTidy_toJson
  have hlookup := lookup_of_sorted_eq htidy heq
  simp only [List.lookup_append] at hlookup
  have hports : s.ports = t.ports :=
    isFaithful_array Port.isFaithful_toJson (by simpa using hlookup "ports")
  have hkind : s.kind = t.kind := isFaithful_text.option (by simpa using hlookup "kind")
  cases s
  cases t
  exact Service.mk.injEq .. ▸ ⟨hports, hkind⟩

/-! ## Variables -/

/-- Variables with different names are the same if they are the same in another order. -/
theorem sameVariables_iff_perm
    {a b : Entries Text Text} (ha : a.names.Nodup) : sameVariables a b = true ↔ a.Perm b := by
  rw [sameVariables, Bool.and_eq_true, beq_iff_eq, List.all_eq_true]
  constructor
  · rintro ⟨hlength, hmem⟩
    have hsubset : a ⊆ b := fun entry hentry => List.contains_iff_mem.mp (hmem entry hentry)
    exact (List.subperm_of_subset ha.of_map hsubset).perm_of_length_le hlength.ge
  · intro hperm
    exact ⟨hperm.length_eq, fun entry hentry =>
      List.contains_iff_mem.mpr (hperm.mem_iff.mp hentry)⟩

theorem variablesToJson_eq (entries : Entries Text Text) :
    variablesToJson entries = .object (entries.map fun entry => (entry.1, .text entry.2)) := rfl

/-- Variables have one sorted form exactly if they are the same up to order. -/
theorem sorted_variablesToJson_eq_iff
    {a b : Entries Text Text} (ha : a.names.Nodup) :
    (variablesToJson a).sorted = (variablesToJson b).sorted ↔ sameVariables a b = true := by
  rw [sameVariables_iff_perm ha, variablesToJson_eq, variablesToJson_eq]
  constructor
  · intro heq
    -- Both lists of variables are, but for order, the one that the sorted object holds.
    obtain ⟨inOrder, hsorted, hperm, -⟩ := exists_sorted_object
      (a.map fun entry => (entry.1, Json.text entry.2))
    obtain ⟨inOrder', hsorted', hperm', -⟩ := exists_sorted_object
      (b.map fun entry => (entry.1, Json.text entry.2))
    rw [hsorted, hsorted'] at heq
    obtain rfl := Json.object.inj heq
    have hinjective : Function.Injective
        fun entry : Text × Text => (entry.1, (Json.text entry.2).sorted) := by
      intro entry other heq
      obtain ⟨hname, hvalue⟩ := Prod.mk.inj heq
      exact Prod.ext hname (isFaithful_text hvalue)
    have hboth := hperm.symm.trans hperm'
    rw [List.map_map, List.map_map] at hboth
    exact (List.map_perm_map_iff hinjective).mp hboth
  · intro hperm
    refine sorted_object_of_perm (hperm.map _) ?_
    rw [List.map_map]
    exact ha

theorem sameVariables?_iff
    {a b : Option (Entries Text Text)} (ha : ∀ entries ∈ a, entries.names.Nodup) :
    sameVariables? a b = true ↔
      a.map (sorted ∘ variablesToJson) = b.map (sorted ∘ variablesToJson) := by
  cases a with
  | none => cases b <;> simp [sameVariables?]
  | some a =>
      cases b with
      | none => simp [sameVariables?]
      | some b => simp [sameVariables?, sorted_variablesToJson_eq_iff (ha a rfl)]

/-! ## Builds -/

theorem isFaithful_packs : IsFaithful fun packs : List Text => .array (packs.map .text) :=
  isFaithful_array isFaithful_text

/-- Builds have one sorted form exactly if they are equal up to the order of their variables. -/
theorem Build.sorted_toJson_eq_iff {b c : Build} (hb : b.HasDistinctNames) :
    b.toJson.sorted = c.toJson.sorted ↔ b.same c = true := by
  rw [Build.same, Bool.and_eq_true, beq_iff_eq, Build.mk.injEq, sameVariables?_iff hb]
  constructor
  · intro heq
    have htidy : IsTidy 2 b.toJson := Build.isTidy_toJson hb
    have hlookup := lookup_of_sorted_eq htidy heq
    simp only [List.lookup_append] at hlookup
    refine ⟨?_, ?_, rfl, ?_, ?_, ?_⟩
    · simpa using hlookup "env"
    · exact isFaithful_text.option (by simpa using hlookup "context")
    · exact isFaithful_text.option (by simpa using hlookup "dockerfile")
    · exact isFaithful_text.option (by simpa using hlookup "builder")
    · exact isFaithful_packs.option (by simpa using hlookup "buildpacks")
  · rintro ⟨henv, hcontext, -, hdockerfile, hbuilder, hpacks⟩
    refine sorted_object_of_sortedFields_eq ?_
    simp only [sortedFields_append, sortedFields_field?, henv, hcontext, hdockerfile, hbuilder,
      hpacks]

/-! ## Specs -/

namespace Spec

theorem sameBuild?_iff
    {a b : Option Build} (ha : ∀ build ∈ a, build.HasDistinctNames) :
    sameBuild? a b = true ↔
      a.map (sorted ∘ Build.toJson) = b.map (sorted ∘ Build.toJson) := by
  cases a with
  | none => cases b <;> simp [sameBuild?]
  | some a =>
      cases b with
      | none => simp [sameBuild?]
      | some b => simp [sameBuild?, Build.sorted_toJson_eq_iff (ha a rfl)]

/-- Specs have one sorted form exactly if they are equal up to the order of their variables. -/
theorem sorted_toJson_eq_iff {s t : Spec} (hs : s.HasDistinctNames) :
    s.toJson.sorted = t.toJson.sorted ↔ s.same t = true := by
  rw [Spec.same, Bool.and_eq_true, Bool.and_eq_true, beq_iff_eq, Spec.mk.injEq,
    sameVariables?_iff hs.1, sameBuild?_iff hs.2]
  constructor
  · intro heq
    -- The two `rfl` are the variables and the build, which are compared on their own.
    have htidy : IsTidy 5 s.toJson := Spec.isTidy_toJson hs
    have hlookup := lookup_of_sorted_eq htidy heq
    simp only [List.lookup_append] at hlookup
    refine ⟨⟨?_, ?_⟩, ?_, ?_, ?_, ?_, ?_, ?_, ?_, ?_, rfl, ?_, ?_, ?_, rfl⟩
    · simpa using hlookup "environments"
    · simpa using hlookup "build"
    · exact isFaithful_text (by simpa using hlookup "name")
    · exact isFaithful_text (by simpa using hlookup "repository")
    · exact isFaithful_text (by simpa using hlookup "commit")
    · exact isFaithful_text (by simpa using hlookup "description")
    · exact isFaithful_text (by simpa using hlookup "image")
    · exact isFaithful_text.option (by simpa using hlookup "command")
    · exact isFaithful_text.option (by simpa using hlookup "path")
    · exact isFaithful_text.option (by simpa using hlookup "reference")
    · exact (isFaithful_array Partner.isFaithful_toJson).option
        (by simpa using hlookup "partners")
    · exact (isFaithful_array Service.isFaithful_toJson).option
        (by simpa using hlookup "services")
    · exact isFaithful_bool.option (by simpa using hlookup "sync")
  · rintro ⟨⟨henvironments, hbuild⟩, hname, hrepository, hcommit, hdescription, himage, hcommand,
      hpath, hreference, -, hpartners, hservices, hsync, -⟩
    refine sorted_object_of_sortedFields_eq ?_
    simp only [sortedFields_append, sortedFields_field, sortedFields_field?, henvironments,
      hbuild, hname, hrepository, hcommit, hdescription, himage, hcommand, hpath, hreference,
      hpartners, hservices, hsync]

theorem hasSurrogate_canonical {s : Spec} (hs : s.HasDistinctNames) :
    s.canonical.hasSurrogate = false := by
  have htidy : IsTidy 5 s.toJson := Spec.isTidy_toJson hs
  exact hasSurrogate_compact (isTidy_sorted htidy)

/-- Two specs that were read from documents have one canonical form exactly if they are equal,
variables in any order.  So equal specs have one digest, and the digests of different specs are
those of different octets. -/
theorem canonical_eq_iff_same [Machine]
    {d₁ d₂ : Document} {s₁ s₂ : Spec}
    (hs₁ : Spec.ofDocument d₁ = .ok s₁) (hs₂ : Spec.ofDocument d₂ = .ok s₂)
    (hplain₁ : s₁.toJson.HasPlainText) (hplain₂ : s₂.toJson.HasPlainText) :
    (s₁.canonical = s₂.canonical ↔ s₁.same s₂ = true) ∧
      (s₁.same s₂ = true → s₁.contentHash = s₂.contentHash) ∧
      ∃ x y, Utf8.encode? s₁.canonical = some x ∧ Utf8.encode? s₂.canonical = some y ∧
        s₁.contentHash = Sha256.digest x ∧ s₂.contentHash = Sha256.digest y ∧
        (x = y ↔ s₁.same s₂ = true) := by
  have hdistinct₁ := hasDistinctNames_of_ofDocument hs₁
  have hdistinct₂ := hasDistinctNames_of_ofDocument hs₂
  have htidy₁ : IsTidy 5 s₁.toJson := Spec.isTidy_toJson hdistinct₁
  have htidy₂ : IsTidy 5 s₂.toJson := Spec.isTidy_toJson hdistinct₂
  have hcanonical : s₁.canonical = s₂.canonical ↔ s₁.same s₂ = true :=
    (canonical_eq_iff htidy₁ htidy₂ hplain₁ hplain₂).trans (sorted_toJson_eq_iff hdistinct₁)
  refine ⟨hcanonical, ?_, ?_⟩
  · intro hsame
    rw [contentHash, hcanonical.mpr hsame, contentHash]
  · obtain ⟨x, y, hx, hy, hinjective⟩ := Utf8.exists_encode?_inj
      (hasSurrogate_canonical hdistinct₁) (hasSurrogate_canonical hdistinct₂)
    refine ⟨x, y, hx, hy, ?_, ?_, hinjective.trans hcanonical⟩
    · rw [contentHash, hx, Option.getD_some]
    · rw [contentHash, hy, Option.getD_some]

/-- Two specs whose variables were given in different orders, and a third with another value. -/
theorem canonical_eq_iff_same_reordered :
    let document (environments : List (Scalar × Document)) : Document := .mapping [
      (.text "name", .text "web"), (.text "repository", .text "r"), (.text "commit", .text "c"),
      (.text "environments", .mapping environments)]
    ∃ s₁ s₂ s₃,
      Spec.ofDocument (document [(.text "A", .text "1"), (.text "B", .text "2")]) = .ok s₁ ∧
      Spec.ofDocument (document [(.text "B", .text "2"), (.text "A", .text "1")]) = .ok s₂ ∧
      Spec.ofDocument (document [(.text "A", .text "1"), (.text "B", .text "3")]) = .ok s₃ ∧
      s₁ ≠ s₂ ∧ s₁.canonical = s₂.canonical ∧ s₁.contentHash = s₂.contentHash ∧
      s₁.canonical ≠ s₃.canonical := by
  intro document
  let spec (environments : Entries Text Text) : Spec := {
    name := "web", repository := "r", commit := "c", description := [], image := [],
    command := none, path := none, reference := none, environments := some environments,
    partners := none, services := none, sync := none, build := none, identified := by decide }
  have hread₁ : Spec.ofDocument (document [(.text "A", .text "1"), (.text "B", .text "2")]) =
      .ok (spec [("A", "1"), ("B", "2")]) := rfl
  have hread₂ : Spec.ofDocument (document [(.text "B", .text "2"), (.text "A", .text "1")]) =
      .ok (spec [("B", "2"), ("A", "1")]) := rfl
  have hread₃ : Spec.ofDocument (document [(.text "A", .text "1"), (.text "B", .text "3")]) =
      .ok (spec [("A", "1"), ("B", "3")]) := rfl
  obtain ⟨hequal, hhash, -⟩ := canonical_eq_iff_same hread₁ hread₂ (by decide) (by decide)
  obtain ⟨hdiffer, -, -⟩ := canonical_eq_iff_same hread₁ hread₃ (by decide) (by decide)
  have hsame : (spec [("A", "1"), ("B", "2")]).same (spec [("B", "2"), ("A", "1")]) = true := by
    decide
  have hother : ¬(spec [("A", "1"), ("B", "2")]).same (spec [("A", "1"), ("B", "3")]) = true := by
    decide
  exact ⟨_, _, _, hread₁, hread₂, hread₃, by decide, hequal.mpr hsame, hhash hsame,
    fun heq => hother (hdiffer.mp heq)⟩

end Spec

end ActorManifest
