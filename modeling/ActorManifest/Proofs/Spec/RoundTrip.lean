import ActorManifest.Proofs.Fields
import ActorManifest.Spec.Basic

/-!
# Specs are read back

A spec is written as an object and read back from its document without loss, and so are
its partners, services, ports and builds.  Each record comes down to its fields: what
stands under each name is looked up in the written fields, and the reader of that field
gives it back.  The one thing that a record must bring is that its variables have different
names, as all variables that were read have.
-/

namespace ActorManifest

open Document

/-! ## Records without variables -/

theorem Partner.ofDocument_toJson (p : Partner) :
    Partner.ofDocument (.ofJson p.toJson) = .ok p := by
  rw [Partner.ofDocument, Partner.toJson, entriesOf_ofJson_object]
  generalize hentries : ofJsonFields _ = entries
  have hname : lookup? "name" entries = some (.ofJson (.text p.name)) := by
    simp [← hentries]
  have hrepository : lookup? "repository" entries = some (.ofJson (.text p.repository)) := by
    simp [← hentries]
  have hpath : lookup? "path" entries = p.path.map fun t => .ofJson (.text t) := by
    simp [← hentries]
  have hreference : lookup? "reference" entries =
      p.reference.map fun t => .ofJson (.text t) := by
    simp [← hentries]
  simp only [bind, Except.bind, pure, Except.pure, Field.filled_of_lookup p.named hname,
    Field.filled_of_lookup p.located hrepository, Field.text?_of_lookup hpath,
    Field.text?_of_lookup hreference]

theorem Port.ofDocument_toJson [Machine] (p : Port) :
    Port.ofDocument (.ofJson p.toJson) = .ok p := by
  rw [Port.ofDocument, Port.toJson, entriesOf_ofJson_object]
  generalize hentries : ofJsonFields _ = entries
  have hnumber : lookup? "port" entries = some (.scalar (.int p.number)) := by
    simp [← hentries, ofJson]
  have hprotocol : lookup? "protocol" entries =
      p.protocol.map fun t => .ofJson (.text t) := by
    simp [← hentries]
  have hexpose : lookup? "expose" entries = p.expose.map fun b => .ofJson (.bool b) := by
    simp [← hentries]
  simp only [bind, Except.bind, hnumber, Field.bool?_of_lookup hexpose,
    Field.text?_of_lookup hprotocol, Port.ofParts, dif_pos p.isNumber]

theorem Service.ofDocument_toJson [Machine] (s : Service) :
    Service.ofDocument (.ofJson s.toJson) = .ok s := by
  rw [Service.ofDocument, Service.toJson, entriesOf_ofJson_object]
  generalize hentries : ofJsonFields _ = entries
  have hkind : lookup? "kind" entries = s.kind.map fun t => .ofJson (.text t) := by
    simp [← hentries]
  have hports : (lookup? "ports" entries).bind Document.items? =
      some ((s.ports.map Port.toJson).map .ofJson) := by
    simp [← hentries]
  have hread : ((s.ports.map Port.toJson).map Document.ofJson).mapM Port.ofDocument =
      .ok s.ports := by
    rw [List.map_map]
    exact Field.mapM_map_eq_ok fun p _ => p.ofDocument_toJson
  simp only [bind, Except.bind, pure, Except.pure, hports, hread, Field.text?_of_lookup hkind]

/-! ## Builds -/

/-- No two variables of a build have one name. -/
def Build.HasDistinctNames (b : Build) : Prop :=
  ∀ env ∈ b.env, env.names.Nodup

theorem Build.ofDocument_toJson [Machine] {b : Build} (hdistinct : b.HasDistinctNames) :
    Build.ofDocument (.ofJson b.toJson) = .ok b := by
  rw [Build.ofDocument, Build.toJson, entriesOf_ofJson_object]
  generalize hentries : ofJsonFields _ = entries
  have hcontext : lookup? "context" entries = b.context.map fun t => .ofJson (.text t) := by
    simp [← hentries]
  have henv : lookup? "env" entries =
      b.env.map fun env => .ofJson (variablesToJson env) := by
    simp [← hentries]
  have hdockerfile : lookup? "dockerfile" entries =
      b.dockerfile.map fun t => .ofJson (.text t) := by
    simp [← hentries]
  have hbuilder : lookup? "builder" entries = b.builder.map fun t => .ofJson (.text t) := by
    simp [← hentries]
  have hpacks : packs? entries = .ok b.buildpacks := by
    have hentry : lookup? "buildpacks" entries =
        b.buildpacks.map fun packs => .ofJson (.array (packs.map .text)) := by
      simp [← hentries]
    cases hbuildpacks : b.buildpacks with
    | none => simp [packs?, hentry, hbuildpacks]
    | some packs =>
        have hread : (packs.map (Document.ofJson ∘ Json.text)).mapM packOf = .ok packs :=
          Field.mapM_map_eq_ok fun t _ => by simp [packOf, ofJson]
        rw [hbuildpacks, Option.map_some, ofJson_array, List.map_map] at hentry
        simp only [packs?, hentry, items?, opened, hread]
        rfl
  simp only [bind, Except.bind, pure, Except.pure, hpacks, Field.text?_of_lookup hcontext,
    Field.variables?_of_lookup henv hdistinct, Field.text?_of_lookup hdockerfile,
    Field.text?_of_lookup hbuilder]

theorem Build.hasDistinctNames_of_ofDocument [Machine]
    {d : Document} {b : Build} (hread : Build.ofDocument d = .ok b) : b.HasDistinctNames := by
  simp only [Build.ofDocument, bind_eq_ok_iff] at hread
  obtain ⟨entries, -, packs, -, context, -, env, henv, dockerfile, -, builder, -, hb⟩ := hread
  cases hb
  exact Field.nodup_names_of_variables? henv

/-! ## Specs -/

namespace Spec

/-- No two variables of a spec have one name, and no two of its build. -/
def HasDistinctNames (s : Spec) : Prop :=
  (∀ environments ∈ s.environments, environments.names.Nodup) ∧
    ∀ b ∈ s.build, b.HasDistinctNames

theorem build?_of_lookup [Machine]
    {entries : DocumentEntries} {value : Option Build}
    (hentry : lookup? "build" entries = value.map fun b => .ofJson b.toJson)
    (hdistinct : ∀ b ∈ value, b.HasDistinctNames) :
    build? entries = .ok value := by
  cases value with
  | none => simp [build?, hentry]
  | some b =>
      have hread := Build.ofDocument_toJson (hdistinct b rfl)
      rw [Option.map_some, Build.toJson, ofJson] at hentry
      rw [Build.toJson, ofJson] at hread
      simp only [build?, hentry, hread]
      rfl

/-- A spec whose variables have different names is read back as it is. -/
theorem ofDocument_toJson [Machine] {s : Spec} (hdistinct : s.HasDistinctNames) :
    Spec.ofDocument (.ofJson s.toJson) = .ok s := by
  obtain ⟨hname, hrepository, hcommit⟩ := s.identified
  rw [Spec.ofDocument, Spec.toJson, entriesOf_ofJson_object]
  generalize hentries : ofJsonFields _ = entries
  have hpartners : Field.list? .spec "partners" Partner.ofDocument entries =
      .ok s.partners :=
    Field.list?_of_lookup (by simp [← hentries]) fun _ _ p _ => p.ofDocument_toJson
  have hservices : Field.list? .spec "services" Service.ofDocument entries =
      .ok s.services :=
    Field.list?_of_lookup (by simp [← hentries]) fun _ _ service _ =>
      service.ofDocument_toJson
  have hsync : Field.bool? .spec "sync" entries = .ok s.sync :=
    Field.bool?_of_lookup (by simp [← hentries])
  have hname : Field.filled .spec "name" entries = .ok ⟨s.name, hname⟩ :=
    Field.filled_of_lookup hname (by simp [← hentries])
  have hrepository : Field.filled .spec "repository" entries =
      .ok ⟨s.repository, hrepository⟩ :=
    Field.filled_of_lookup hrepository (by simp [← hentries])
  have hcommit : Field.filled .spec "commit" entries = .ok ⟨s.commit, hcommit⟩ :=
    Field.filled_of_lookup hcommit (by simp [← hentries])
  have hdescription : Field.textOrEmpty .spec "description" entries = .ok s.description :=
    Field.textOrEmpty_of_lookup (by simp [← hentries])
  have himage : Field.textOrEmpty .spec "image" entries = .ok s.image :=
    Field.textOrEmpty_of_lookup (by simp [← hentries])
  have hcommand : Field.text? .spec "command" entries = .ok s.command :=
    Field.text?_of_lookup (by simp [← hentries])
  have hpath : Field.text? .spec "path" entries = .ok s.path :=
    Field.text?_of_lookup (by simp [← hentries])
  have hreference : Field.text? .spec "reference" entries = .ok s.reference :=
    Field.text?_of_lookup (by simp [← hentries])
  have henvironments : Field.variables? .spec "environments" entries = .ok s.environments :=
    Field.variables?_of_lookup (by simp [← hentries]) hdistinct.1
  have hbuild : build? entries = .ok s.build :=
    build?_of_lookup (by simp [← hentries]) hdistinct.2
  simp only [bind, Except.bind, pure, Except.pure, hpartners, hservices, hsync, hname,
    hrepository, hcommit, hdescription, himage, hcommand, hpath, hreference, henvironments,
    hbuild]

theorem hasDistinctNames_of_build? [Machine]
    {entries : DocumentEntries} {value : Option Build}
    (hread : build? entries = .ok value) : ∀ b ∈ value, b.HasDistinctNames := by
  unfold build? at hread
  split at hread
  · cases hread
    simp
  · cases hread
    simp
  · obtain ⟨b, hb, rfl⟩ := map_eq_ok_iff.mp hread
    simpa using Build.hasDistinctNames_of_ofDocument hb

theorem hasDistinctNames_of_ofDocument [Machine]
    {d : Document} {s : Spec} (hread : Spec.ofDocument d = .ok s) : s.HasDistinctNames := by
  simp only [Spec.ofDocument, bind_eq_ok_iff] at hread
  obtain ⟨entries, -, partners, -, services, -, sync, -, name, -, repository, -, commit, -,
    description, -, image, -, command, -, path, -, reference, -, environments,
    henvironments, build, hbuild, hs⟩ := hread
  cases hs
  exact ⟨Field.nodup_names_of_variables? henvironments, hasDistinctNames_of_build? hbuild⟩

/-- Some document describes the spec. -/
def IsAccepted [Machine] (s : Spec) : Prop :=
  ∃ d, Spec.ofDocument d = .ok s

theorem isAccepted_iff_hasDistinctNames [Machine] {s : Spec} :
    s.IsAccepted ↔ s.HasDistinctNames := by
  constructor
  · rintro ⟨d, hread⟩
    exact hasDistinctNames_of_ofDocument hread
  · intro hdistinct
    exact ⟨_, ofDocument_toJson hdistinct⟩

/-- A spec that was read from a document is written to one that reads as the same spec.
Hence reading what a spec is written to, and writing it again, changes nothing. -/
theorem ofDocument_toJson_of_ofDocument [Machine] :
    (∀ (d : Document) (s : Spec), Spec.ofDocument d = .ok s →
      Spec.ofDocument (.ofJson s.toJson) = .ok s) ∧
      ∀ s : Spec, s.HasDistinctNames →
        (Spec.ofDocument (.ofJson s.toJson)).map Spec.toJson = .ok s.toJson := by
  refine ⟨?_, ?_⟩
  · intro d s hread
    exact ofDocument_toJson (hasDistinctNames_of_ofDocument hread)
  · intro s hdistinct
    rw [ofDocument_toJson hdistinct]
    rfl

/-- A spec with empty parts, parts that are null and parts that are absent. -/
theorem ofDocument_toJson_of_ofDocument_sparse :
    let d : Document := .mapping [
      (.text "name", .text "web"), (.text "repository", .text "r"), (.text "commit", .text "c"),
      (.text "image", .null), (.text "path", .text ""),
      (.text "environments", .mapping [(.text "DEBUG", .scalar (.bool true))]),
      (.text "partners", .list []), (.text "build", .mapping [])]
    ∃ s, Spec.ofDocument d = .ok s ∧ s.path = some [] ∧ s.reference = none ∧
      s.environments = some [(("DEBUG" : Text), ("true" : Text))] ∧ s.partners = some [] ∧
      s.services = none ∧ s.build.isSome ∧ Spec.ofDocument (.ofJson s.toJson) = .ok s := by
  intro d
  have hread : Spec.ofDocument d = .ok {
      name := "web", repository := "r", commit := "c", description := [], image := [],
      command := none, path := some [], reference := none,
      environments := some [("DEBUG", "true")], partners := some [], services := none,
      sync := none, build := some ⟨none, none, none, none, none⟩,
      identified := by decide } := rfl
  exact ⟨_, hread, rfl, rfl, rfl, rfl, rfl, rfl, ofDocument_toJson_of_ofDocument.1 d _ hread⟩

end Spec

end ActorManifest
