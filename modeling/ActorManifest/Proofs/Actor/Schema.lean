import ActorManifest.Actor
import ActorManifest.Proofs.Json.Limits
import ActorManifest.Proofs.Ledger.Schema
import ActorManifest.Proofs.Spec.Schema

/-!
# The schema of actors

A full document of an actor holds a spec and a ledger that are accepted as such, beside its
metadata.  Where the metadata or the list of conditions should be, whatever counts as nothing
stands for absence.  So the schema is given for each sense of absence: read with null alone it
is the schema as it should be, and read with all that counts as nothing it is the schema that
the reader follows.
-/

namespace ActorManifest

open Document DocumentEntries

/-- A field is absent or holds one text. -/
def DocumentEntries.HoldsOnly (expected : Text) (field : String) (entries : DocumentEntries) :
    Prop :=
  ∀ d, lookup? field entries = some d → d = .text expected

theorem DocumentEntries.AllowsBeside.mono
    {absence other kind next : Document → Prop} {field : String} {entries : DocumentEntries}
    (hallows : entries.AllowsBeside absence kind field)
    (habsence : ∀ d, absence d → other d) (hkind : ∀ d, kind d → next d) :
    entries.AllowsBeside other next field :=
  fun d hd => (hallows d hd).imp (habsence d) (hkind d)

namespace Actor

variable {entries : DocumentEntries}

/-- The entries that describe the metadata of an actor. -/
structure MetadataSchema (entries : DocumentEntries) : Prop where
  name : entries.Allows IsText "name"
  space : entries.Allows IsText "namespace"
  generation : entries.Allows IsInteger "generation"

/-- The entries that describe an actor in full, given what stands for absence. -/
structure Schema [Machine] (absence : Document → Prop) (entries : DocumentEntries) : Prop where
  kind : entries.HoldsOnly kind "kind"
  version : entries.HoldsOnly apiVersion "apiVersion"
  spec : entries.Requires (fun d => ∃ s, Spec.ofDocument d = .ok s) "spec"
  metadata : entries.AllowsBeside absence (IsMapping MetadataSchema) "metadata"
  status : entries.Allows (IsMapping (Ledger.Schema absence)) "status"

theorem settled_requireText [Machine]
    {field : String} {expected : Text} {refusal : Text → Refusal}
    (hfinding : ∀ t, (refusal t).IsFinding) :
    IsSettledBy (entries.HoldsOnly expected field) entries.IsShowable
      (requireText field expected refusal entries) := by
  have honly : ∀ {d : Document}, lookup? field entries = some d →
      (entries.HoldsOnly expected field ↔ d = .text expected) := by
    intro d hd
    simp [HoldsOnly, hd]
  unfold requireText
  split
  · rename_i hentry
    refine .accepted ?_
    simp [HoldsOnly, hentry]
  · rename_i t hentry
    split
    · rename_i heq
      exact .accepted ((honly hentry).mpr (by rw [heq]))
    · rename_i hne
      refine .refused (hfinding _) ?_
      rw [honly hentry]
      rintro ⟨rfl⟩
      exact hne rfl
  · rename_i d htext hentry
    refine settled_shownOr (fun hshow => isShowable_of_lookup? hshow hentry) hfinding ?_
    rw [honly hentry]
    rintro rfl
    exact htext _ rfl

/-! ## Metadata -/

theorem metadataSchema_nil : MetadataSchema [] :=
  ⟨Field.allows_of_none rfl, Field.allows_of_none rfl, Field.allows_of_none rfl⟩

/-- The metadata that is read follows its schema if the field does. -/
theorem allowsBeside_metadata_iff :
    entries.AllowsBeside (·.isEmpty = true) (IsMapping MetadataSchema) "metadata" ↔
      ∃ metadata, metadataOf entries = .ok metadata ∧ MetadataSchema metadata := by
  unfold metadataOf AllowsBeside
  cases hentry : lookup? "metadata" entries with
  | none => simp [metadataSchema_nil]
  | some d =>
      cases hentries : d.entries? with
      | none =>
          by_cases hempty : d.isEmpty = true
          · simp [hentries, hempty, metadataSchema_nil]
          · simp [hempty, IsMapping, hentries]
      | some metadata =>
          have hnil : d.isEmpty = true → MetadataSchema metadata := by
            intro hempty
            rw [entries_eq_nil_of_isEmpty hempty hentries]
            exact metadataSchema_nil
          simpa [IsMapping, hentries] using hnil

theorem settled_metadataOf {showable : Prop} :
    IsSettledBy (∃ metadata, metadataOf entries = .ok metadata) showable (metadataOf entries) := by
  unfold metadataOf
  split
  · exact .accepted ⟨_, rfl⟩
  · split
    · exact .accepted ⟨_, rfl⟩
    · split
      · exact .accepted ⟨_, rfl⟩
      · exact .refused (by simp) (by simp)

theorem isShowable_of_metadataOf [Machine]
    {metadata : DocumentEntries} (hshow : entries.IsShowable)
    (hmetadata : metadataOf entries = .ok metadata) : metadata.IsShowable := by
  have hnil : DocumentEntries.IsShowable [] := List.forall_mem_nil _
  unfold metadataOf at hmetadata
  split at hmetadata
  · cases hmetadata
    exact hnil
  · rename_i d hentry
    split at hmetadata
    · rename_i found hfound
      cases hmetadata
      exact isShowable_of_entries? (isShowable_of_lookup? hshow hentry) hfound
    · split at hmetadata
      · cases hmetadata
        exact hnil
      · cases hmetadata

/-- What is read of the metadata is settled by its schema. -/
theorem settled_metadata [Machine]
    {α : Type} (f : Option Int → Text → Option Text → α) :
    IsSettledBy (entries.AllowsBeside (·.isEmpty = true) (IsMapping MetadataSchema) "metadata")
      entries.IsShowable (do
        let metadata ← metadataOf entries
        let generation ← Field.integer? .actor "generation" metadata
        let name ← Field.textOrEmpty .actor "name" metadata
        let space ← Field.text? .actor "namespace" metadata
        return f generation name space) := by
  have hread : ∀ metadata, metadataOf entries = .ok metadata →
      IsSettledBy (∀ m, metadataOf entries = .ok m → MetadataSchema m) entries.IsShowable (do
        let generation ← Field.integer? .actor "generation" metadata
        let name ← Field.textOrEmpty .actor "name" metadata
        let space ← Field.text? .actor "namespace" metadata
        return f generation name space) := by
    intro metadata hmetadata
    have hinteger : IsSettledBy (metadata.Allows IsInteger "generation") entries.IsShowable
        (Field.integer? .actor "generation" metadata) :=
      Field.settled_integer?.weaken fun hshow => isShowable_of_metadataOf hshow hmetadata
    refine .of_iff (.bind hinteger fun generation _ => .bind Field.settled_textOrEmpty
      fun name _ => .bind Field.settled_text? fun space _ => .pure _) ?_
    simp only [hmetadata, Except.ok.injEq, forall_eq']
    constructor
    · rintro ⟨hgeneration, hname, hspace, -⟩
      exact ⟨hname, hspace, hgeneration⟩
    · rintro ⟨hname, hspace, hgeneration⟩
      exact ⟨hgeneration, hname, hspace, trivial⟩
  refine (settled_metadataOf.bind hread).of_iff ?_
  rw [allowsBeside_metadata_iff]
  constructor
  · rintro ⟨⟨metadata, hmetadata⟩, hall⟩
    exact ⟨metadata, hmetadata, hall metadata hmetadata⟩
  · rintro ⟨metadata, hmetadata, hschema⟩
    refine ⟨⟨metadata, hmetadata⟩, fun other hother => ?_⟩
    rw [hmetadata] at hother
    cases hother
    exact hschema

/-! ## Full documents -/

theorem settled_readFrame [Machine] :
    IsSettledBy
      (entries.HoldsOnly kind "kind" ∧ entries.HoldsOnly apiVersion "apiVersion" ∧
        entries.Requires (fun d => ∃ s, Spec.ofDocument d = .ok s) "spec" ∧
        entries.AllowsBeside (·.isEmpty = true) (IsMapping MetadataSchema) "metadata")
      entries.IsShowable (readFrame entries) := by
  refine .bind (settled_requireText (by simp)) fun _ _ =>
    .bind (settled_requireText (by simp)) fun _ _ => ?_
  split
  · rename_i hentry
    refine .refused (by simp) ?_
    rintro ⟨⟨d, hd, -⟩, -⟩
    rw [hentry] at hd
    cases hd
  · rename_i d hentry
    rw [requires_iff_of_some hentry]
    refine .bind ((Spec.settled_ofDocument d).accepts.weaken
      fun hshow => isShowable_of_lookup? hshow hentry) fun spec _ => ?_
    exact settled_metadata fun generation name space =>
      Actor.mk (if name = [] then spec.name else name) spec space generation .empty

theorem readFull_eq_bind [Machine] (entries : DocumentEntries) :
    (readFull entries).2 = (do
      let actor ← readFrame entries
      let status ← Ledger.ofDocument ((lookup? "status" entries).getD .null)
      return { actor with status }) := by
  unfold readFull Ledger.ofDocument
  cases readFrame entries with
  | error refusal => rfl
  | ok actor =>
      rcases Ledger.read ((lookup? "status" entries).getD .null) with
        ⟨conditions, _ | status⟩ <;> rfl

theorem settled_status [Machine] :
    IsSettledBy (entries.Allows (IsMapping (Ledger.Schema (·.isEmpty = true))) "status")
      entries.IsShowable (Ledger.ofDocument ((lookup? "status" entries).getD .null)) := by
  cases hentry : lookup? "status" entries with
  | none => exact .accepted (Field.allows_of_none hentry)
  | some d =>
      refine ((Ledger.settled_ofDocument d).weaken
        fun hshow => isShowable_of_lookup? hshow hentry).of_iff ?_
      simp [Allows, AllowsBeside, hentry]

theorem settled_readFull [Machine] :
    IsSettledBy (Schema (·.isEmpty = true) entries) entries.IsShowable (readFull entries).2 := by
  rw [readFull_eq_bind]
  refine .of_iff (.bind settled_readFrame fun actor _ => .bind settled_status fun status _ =>
    .pure _) ⟨?_, ?_⟩
  · rintro ⟨⟨hkind, hversion, hspec, hmetadata⟩, hstatus, -⟩
    exact ⟨hkind, hversion, hspec, hmetadata, hstatus⟩
  · rintro ⟨hkind, hversion, hspec, hmetadata, hstatus⟩
    exact ⟨⟨hkind, hversion, hspec, hmetadata⟩, hstatus, trivial⟩

theorem settled_ofDocument [Machine] (d : Document) :
    IsSettledBy (d.IsMapping (Schema (·.isEmpty = true))) d.IsShowable (ofDocument d) :=
  settled_record fun _ => settled_readFull

/-! ## What stands for absence -/

end Actor
end ActorManifest
