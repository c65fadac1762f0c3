import ActorManifest.Proofs.Json.Limits
import ActorManifest.Proofs.Schema
import ActorManifest.Proofs.Spec.Tidy

/-!
# The schema of specs

The schema says, record by record, which documents describe a spec.  Partners, ports, services
and builds are each settled by a schema of their own, and so is the spec that holds them.
-/

namespace ActorManifest

open Document DocumentEntries

/-! ## Partners -/

namespace Partner

/-- The entries that describe a partner. -/
structure Schema (entries : DocumentEntries) : Prop where
  name : entries.Requires IsFilledText "name"
  repository : entries.Requires IsFilledText "repository"
  path : entries.Allows IsText "path"
  reference : entries.Allows IsText "reference"

theorem settled_ofDocument [Machine] (d : Document) :
    IsSettledBy (d.IsMapping Schema) d.IsShowable (ofDocument d) := by
  refine settled_record fun entries => ?_
  refine .of_iff (.bind Field.settled_filled fun name _ => .bind Field.settled_filled
    fun repository _ => .bind Field.settled_text? fun path _ => .bind Field.settled_text?
    fun reference _ => .pure _) ⟨?_, ?_⟩
  · rintro ⟨hname, hrepository, hpath, hreference, -⟩
    exact ⟨hname, hrepository, hpath, hreference⟩
  · rintro ⟨hname, hrepository, hpath, hreference⟩
    exact ⟨hname, hrepository, hpath, hreference, trivial⟩

end Partner

/-! ## Ports and services -/

namespace Port

/-- The document is a whole number with a 32-bit form. -/
def IsNumber (d : Document) : Prop :=
  ∃ n, d = .scalar (.int n) ∧ IsPortNumber n

/-- The entries that describe a port. -/
structure Schema (entries : DocumentEntries) : Prop where
  number : entries.Requires IsNumber "port"
  protocol : entries.Allows IsText "protocol"
  expose : entries.Allows IsTruthValue "expose"

theorem settled_ofParts [Machine] (d : Document) (protocol : Option Text) (expose : Option Bool) :
    IsSettledBy (IsNumber d) d.IsShowable (ofParts d protocol expose) := by
  unfold ofParts
  split
  · rename_i n
    have hiff : IsNumber (.scalar (.int n)) ↔ IsPortNumber n := by simp [IsNumber]
    split
    · rename_i hnumber
      exact .accepted (hiff.mpr hnumber)
    · rename_i hnumber
      split
      · exact .refused (by simp) (mt hiff.mp hnumber)
      · rename_i hlong
        refine .unshown .longNumber fun hshow => ?_
        obtain ⟨hshort⟩ := hshow.short
        exact hlong (Scalar.isShort_int_iff.mp hshort)
  · rename_i hother
    refine settled_shownOr id (by simp) ?_
    rintro ⟨n, rfl, -⟩
    exact hother n rfl

theorem settled_ofDocument [Machine] (d : Document) :
    IsSettledBy (d.IsMapping Schema) d.IsShowable (ofDocument d) := by
  refine settled_record fun entries => ?_
  split
  · rename_i hentry
    refine .refused (by simp) ?_
    rintro ⟨⟨number, hnumber, -⟩, -, -⟩
    rw [hentry] at hnumber
    cases hnumber
  · rename_i number hentry
    have hnumber : ∀ protocol expose, IsSettledBy (IsNumber number) entries.IsShowable
        (ofParts number protocol expose) := fun protocol expose =>
      (settled_ofParts number protocol expose).weaken fun hshow => isShowable_of_lookup? hshow hentry
    refine .of_iff (.bind Field.settled_bool? fun expose _ => .bind Field.settled_text?
      fun protocol _ => hnumber protocol expose) ⟨?_, ?_⟩
    · rintro ⟨hexpose, hprotocol, hnumber⟩
      exact ⟨(requires_iff_of_some hentry).mpr hnumber, hprotocol, hexpose⟩
    · rintro ⟨hnumber, hprotocol, hexpose⟩
      exact ⟨hexpose, hprotocol, (requires_iff_of_some hentry).mp hnumber⟩

end Port

namespace Service

/-- The entries that describe a service. -/
structure Schema (entries : DocumentEntries) : Prop where
  ports : entries.Requires (IsListOf (IsMapping Port.Schema)) "ports"
  kind : entries.Allows IsText "kind"

theorem settled_ofDocument [Machine] (d : Document) :
    IsSettledBy (d.IsMapping Schema) d.IsShowable (ofDocument d) := by
  refine settled_record fun entries => ?_
  split
  · rename_i items hitems
    obtain ⟨list, hentry, hlist⟩ := Option.bind_eq_some_iff.mp hitems
    have hports : IsSettledBy (∀ item ∈ items, item.IsMapping Port.Schema) entries.IsShowable
        (items.mapM Port.ofDocument) := Field.settled_items Port.settled_ofDocument
      fun hshow => isShowable_of_items? (isShowable_of_lookup? hshow hentry) hlist
    refine .of_iff (.bind hports fun ports _ => .bind Field.settled_text? fun kind _ => .pure _)
      ⟨?_, ?_⟩
    · rintro ⟨hall, hkind, -⟩
      exact ⟨(requires_iff_of_some hentry).mpr ((isListOf_iff hlist).mpr hall), hkind⟩
    · rintro ⟨hports, hkind⟩
      rw [requires_iff_of_some hentry, isListOf_iff hlist] at hports
      exact ⟨hports, hkind, trivial⟩
  · rename_i hnone
    refine .refused (by simp) ?_
    rintro ⟨⟨d, hd, ports, hd', -⟩, -⟩
    rw [hd, Option.bind_some, hd'] at hnone
    cases hnone

end Service

/-! ## Builds -/

namespace Build

/-- The entries that describe a build. -/
structure Schema (entries : DocumentEntries) : Prop where
  context : entries.Allows IsText "context"
  env : entries.Allows (IsMapping HasNoNull) "env"
  dockerfile : entries.Allows IsText "dockerfile"
  builder : entries.Allows IsText "builder"
  buildpacks : entries.Allows (IsListOf IsText) "buildpacks"

theorem settled_packOf {showable : Prop} (d : Document) :
    IsSettledBy d.IsText showable (packOf d) := by
  unfold packOf
  split
  · rename_i t
    exact .accepted ⟨t, rfl⟩
  · rename_i hother
    refine .refused (by simp) ?_
    rintro ⟨t, rfl⟩
    exact hother t rfl

theorem settled_packs? {entries : DocumentEntries} {showable : Prop} :
    IsSettledBy (entries.Allows (IsListOf IsText) "buildpacks") showable (packs? entries) := by
  unfold packs?
  split
  · rename_i hentry
    exact .accepted (Field.allows_of_none hentry)
  · rename_i hentry
    exact .accepted (Field.allows_of_null hentry)
  · rename_i d hnull hentry
    split
    · rename_i items hitems
      have hread : IsSettledBy (∀ item ∈ items, IsText item) showable (items.mapM packOf) :=
        .mapM fun item _ => settled_packOf item
      refine (hread.map some).of_iff ?_
      rw [Field.allows_iff_of_some hentry hnull, isListOf_iff hitems]
    · rename_i hitems
      refine .refused (by simp) ?_
      rw [Field.allows_iff_of_some hentry hnull]
      exact not_isListOf hitems

theorem settled_ofDocument [Machine] (d : Document) :
    IsSettledBy (d.IsMapping Schema) d.IsShowable (ofDocument d) := by
  refine settled_record fun entries => ?_
  refine .of_iff (.bind settled_packs? fun buildpacks _ => .bind Field.settled_text?
    fun context _ => .bind Field.settled_variables? fun env _ => .bind Field.settled_text?
    fun dockerfile _ => .bind Field.settled_text? fun builder _ => .pure _) ⟨?_, ?_⟩
  · rintro ⟨hbuildpacks, hcontext, henv, hdockerfile, hbuilder, -⟩
    exact ⟨hcontext, henv, hdockerfile, hbuilder, hbuildpacks⟩
  · rintro ⟨hcontext, henv, hdockerfile, hbuilder, hbuildpacks⟩
    exact ⟨hbuildpacks, hcontext, henv, hdockerfile, hbuilder, trivial⟩

end Build

/-! ## Specs -/

namespace Spec

/-- The entries that describe a spec. -/
structure Schema (entries : DocumentEntries) : Prop where
  name : entries.Requires IsFilledText "name"
  repository : entries.Requires IsFilledText "repository"
  commit : entries.Requires IsFilledText "commit"
  description : entries.Allows IsText "description"
  image : entries.Allows IsText "image"
  command : entries.Allows IsText "command"
  path : entries.Allows IsText "path"
  reference : entries.Allows IsText "reference"
  environments : entries.Allows (IsMapping HasNoNull) "environments"
  partners : entries.Allows (IsListOf (IsMapping Partner.Schema)) "partners"
  services : entries.Allows (IsListOf (IsMapping Service.Schema)) "services"
  sync : entries.Allows IsTruthValue "sync"
  build : entries.Allows (IsMapping Build.Schema) "build"

theorem settled_build? [Machine] {entries : DocumentEntries} :
    IsSettledBy (entries.Allows (IsMapping Build.Schema) "build") entries.IsShowable
      (build? entries) := by
  unfold build?
  split
  · rename_i hentry
    exact .accepted (Field.allows_of_none hentry)
  · rename_i hentry
    exact .accepted (Field.allows_of_null hentry)
  · rename_i d hnull hentry
    have hread := (Build.settled_ofDocument d).weaken
      fun hshow : entries.IsShowable => isShowable_of_lookup? hshow hentry
    refine (hread.map some).of_iff ?_
    rw [Field.allows_iff_of_some hentry hnull]

theorem settled_ofEntries [Machine] {entries : DocumentEntries} :
    IsSettledBy (Schema entries) entries.IsShowable (ofDocument (.mapping entries)) := by
  change IsSettledBy _ _ (Field.list? .spec "partners" Partner.ofDocument entries >>= _)
  refine .of_iff (.bind (Field.settled_list? Partner.settled_ofDocument) fun partners _ =>
    .bind (Field.settled_list? Service.settled_ofDocument) fun services _ =>
    .bind Field.settled_bool? fun sync _ => .bind Field.settled_filled fun name _ =>
    .bind Field.settled_filled fun repository _ => .bind Field.settled_filled fun commit _ =>
    .bind Field.settled_textOrEmpty fun description _ => .bind Field.settled_textOrEmpty
    fun image _ => .bind Field.settled_text? fun command _ => .bind Field.settled_text?
    fun path _ => .bind Field.settled_text? fun reference _ => .bind Field.settled_variables?
    fun environments _ => .bind settled_build? fun build _ => .pure _) ⟨?_, ?_⟩
  · rintro ⟨hpartners, hservices, hsync, hname, hrepository, hcommit, hdescription, himage,
      hcommand, hpath, hreference, henvironments, hbuild, -⟩
    exact ⟨hname, hrepository, hcommit, hdescription, himage, hcommand, hpath, hreference,
      henvironments, hpartners, hservices, hsync, hbuild⟩
  · rintro ⟨hname, hrepository, hcommit, hdescription, himage, hcommand, hpath, hreference,
      henvironments, hpartners, hservices, hsync, hbuild⟩
    exact ⟨hpartners, hservices, hsync, hname, hrepository, hcommit, hdescription, himage,
      hcommand, hpath, hreference, henvironments, hbuild, trivial⟩

theorem settled_ofDocument [Machine] (d : Document) :
    IsSettledBy (d.IsMapping Schema) d.IsShowable (ofDocument d) :=
  settled_record fun _ => settled_ofEntries

end Spec
end ActorManifest
