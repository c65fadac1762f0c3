import ActorManifest.Proofs.Manifest.RoundTrip
import ActorManifest.Proofs.Yaml.RoundTrip

/-!
# Manifests in YAML are read back

An actor that was read from a manifest and then changed is written as a text that is read as
its fields, unless a variable has a long name that stands before its colon on one line.  The
writer allows this to a name of few code points, but the lexer counts the signs of the escapes.
No other name in a manifest is that long.
-/

namespace ActorManifest

open Yaml

/-! ## The names in what is written -/

namespace Json

theorem hasShortKeys_of_keys {j : Json} (hkeys : j.keys = []) : j.HasShortKeys := by
  rw [HasShortKeys, hkeys]
  exact List.forall_mem_nil _

theorem hasShortKeys_text (t : Text) : (text t).HasShortKeys :=
  hasShortKeys_of_keys rfl

theorem hasShortKeys_bool (b : Bool) : (bool b).HasShortKeys :=
  hasShortKeys_of_keys rfl

theorem hasShortKeys_int (n : Int) : (int n).HasShortKeys :=
  hasShortKeys_of_keys rfl

theorem hasShortKeys_array_map_iff {α : Type} {encode : α → Json} {list : List α} :
    (array (list.map encode)).HasShortKeys ↔ ∀ a ∈ list, (encode a).HasShortKeys := by
  rw [hasShortKeys_array_iff, List.forall_mem_map]

theorem hasShortKeys_append_iff {fields more : List (Text × Json)} :
    (object (fields ++ more)).HasShortKeys ↔
      (object fields).HasShortKeys ∧ (object more).HasShortKeys := by
  simp only [hasShortKeys_object_iff, List.forall_mem_append]

theorem hasShortKeys_field_iff {name : String} {value : Json}
    (hname : (Text.ofString name).length ≤ 102) :
    (object (field name value)).HasShortKeys ↔ value.HasShortKeys := by
  simp [hasShortKeys_object_iff, field, Writer.isShortKey_of_length_le hname]

theorem hasShortKeys_field?_iff {name : String} {α : Type} {encode : α → Json} {value : Option α}
    (hname : (Text.ofString name).length ≤ 102) :
    (object (field? name encode value)).HasShortKeys ↔
      ∀ a ∈ value, (encode a).HasShortKeys := by
  cases value with
  | none => simp [hasShortKeys_object_iff, field?]
  | some a => simp [field?, hasShortKeys_field_iff hname]

end Json

open Json

/-- The names of the variables are short keys. -/
def Entries.HasShortNames (entries : Entries Text Text) : Prop :=
  ∀ name ∈ entries.names, Writer.IsShortKey name

instance (entries : Entries Text Text) : Decidable entries.HasShortNames :=
  inferInstanceAs (Decidable (∀ name ∈ entries.names, Writer.IsShortKey name))

theorem hasShortKeys_variablesToJson_iff {entries : Entries Text Text} :
    (variablesToJson entries).HasShortKeys ↔ entries.HasShortNames := by
  rw [variablesToJson, hasShortKeys_object_iff, List.forall_mem_map, Entries.HasShortNames,
    Entries.names, List.forall_mem_map]
  simp only [hasShortKeys_text, and_true]

theorem Partner.hasShortKeys_toJson (p : Partner) : p.toJson.HasShortKeys := by
  simp (disch := decide) [Partner.toJson, hasShortKeys_append_iff, hasShortKeys_field_iff,
    hasShortKeys_field?_iff, hasShortKeys_text]

theorem Port.hasShortKeys_toJson (p : Port) : p.toJson.HasShortKeys := by
  simp (disch := decide) [Port.toJson, hasShortKeys_append_iff, hasShortKeys_field_iff,
    hasShortKeys_field?_iff, hasShortKeys_text, hasShortKeys_bool, hasShortKeys_int]

theorem Service.hasShortKeys_toJson (s : Service) : s.toJson.HasShortKeys := by
  simp (disch := decide) [Service.toJson, hasShortKeys_append_iff, hasShortKeys_field_iff,
    hasShortKeys_field?_iff, hasShortKeys_text, hasShortKeys_array_map_iff,
    Port.hasShortKeys_toJson]

/-- The names of the variables of a build are short keys. -/
def Build.HasShortNames (b : Build) : Prop :=
  ∀ env ∈ b.env, env.HasShortNames

instance (b : Build) : Decidable b.HasShortNames :=
  inferInstanceAs (Decidable (∀ env ∈ b.env, env.HasShortNames))

theorem Build.hasShortKeys_toJson_iff {b : Build} :
    b.toJson.HasShortKeys ↔ b.HasShortNames := by
  simp (disch := decide) [Build.toJson, hasShortKeys_append_iff, hasShortKeys_field?_iff,
    hasShortKeys_text, hasShortKeys_array_map_iff, hasShortKeys_variablesToJson_iff,
    Build.HasShortNames]

/-- The names of the variables of a spec are short keys, and so are those of its build. -/
def Spec.HasShortNames (s : Spec) : Prop :=
  (∀ environments ∈ s.environments, environments.HasShortNames) ∧
    ∀ b ∈ s.build, b.HasShortNames

instance (s : Spec) : Decidable s.HasShortNames :=
  inferInstanceAs (Decidable ((∀ environments ∈ s.environments, environments.HasShortNames) ∧
    ∀ b ∈ s.build, b.HasShortNames))

theorem Spec.hasShortKeys_toJson_iff {s : Spec} :
    s.toJson.HasShortKeys ↔ s.HasShortNames := by
  simp (disch := decide) [Spec.toJson, hasShortKeys_append_iff, hasShortKeys_field_iff,
    hasShortKeys_field?_iff, hasShortKeys_text, hasShortKeys_bool, hasShortKeys_array_map_iff,
    hasShortKeys_variablesToJson_iff, Partner.hasShortKeys_toJson, Service.hasShortKeys_toJson,
    Build.hasShortKeys_toJson_iff, Spec.HasShortNames]

theorem Condition.hasShortKeys_of_toJson? {c : Condition} {j : Json} (hj : c.toJson? = some j) :
    j.HasShortKeys := by
  obtain ⟨since, -, rfl⟩ := Option.map_eq_some_iff.mp hj
  simp (disch := decide) [hasShortKeys_append_iff, hasShortKeys_field_iff,
    hasShortKeys_field?_iff, hasShortKeys_text, hasShortKeys_int]

theorem Ledger.hasShortKeys_of_toJson? {l : Ledger} {j : Json} (hj : l.toJson? = some j) :
    j.HasShortKeys := by
  unfold Ledger.toJson? at hj
  split at hj
  · cases hj
    exact hasShortKeys_of_keys rfl
  · obtain ⟨items, hitems, rfl⟩ := Option.map_eq_some_iff.mp hj
    rw [hasShortKeys_field_iff (by decide), hasShortKeys_array_iff]
    intro item hitem
    obtain ⟨c, -, hj⟩ := Condition.exists_of_mem_mapM hitems item hitem
    exact Condition.hasShortKeys_of_toJson? hj

theorem Actor.hasShortKeys_fields_iff {a : Actor} {fields : List (Text × Json)}
    (hfields : a.fields? = some fields) :
    (object fields).HasShortKeys ↔ a.spec.HasShortNames := by
  obtain ⟨status, hstatus, rfl⟩ := Option.map_eq_some_iff.mp hfields
  have hkeys := Ledger.hasShortKeys_of_toJson? hstatus
  split <;> simp (disch := decide) [hasShortKeys_append_iff, hasShortKeys_field_iff,
    hasShortKeys_field?_iff, hasShortKeys_text, hasShortKeys_int, Spec.hasShortKeys_toJson_iff, *]

/-! ## The text of an actor -/

namespace Manifest

open Document

theorem write_of_fields
    {format : Format} {a : Actor} {fields : List (Text × Json)} (hfields : a.fields? = some fields)
    (hintegers : (Json.object fields).allIntegers isWritable = true) :
    write format a = .ok (textOf format fields) := by
  simp only [write, Manifest.fields, hfields, Option.elim, bind, Except.bind, hintegers, if_pos,
    pure, Except.pure]

/-- A tidy object with short keys is read back from its lines. -/
theorem read_textOf_yaml [Machine]
    {fields : List (Text × Json)} (htidy : IsTidy 6 (.object fields))
    (hkeys : (Json.object fields).HasShortKeys) :
    Manifest.read .yaml (textOf .yaml fields) = .ok (ofJsonFields fields) := by
  have hread : Yaml.read (textOf .yaml fields) = .ok (.ofJson (.object fields)) :=
    read_write htidy hkeys (by decide)
  simp only [Manifest.read, document, hread, Except.mapError, bind, Except.bind,
    entries?_ofJson_object, pure, Except.pure]

/-- An actor that was read from a manifest and then changed is written as a text in YAML, unless
a generation has too many digits.  If the names of its variables are short keys, then the text
is read as the fields of the actor, in their order, and from these the actor is read with its
times rounded down to the second. -/
theorem readNamed_writeNamed_yaml [Machine]
    {entries : DocumentEntries} {space : Option Text} {start a : Actor}
    {steps : List Actor.Step}
    (hread : Actor.ofEntries entries space = .ok start) (hrun : start.run steps = a)
    (hspecs : ∀ spec, .respec spec ∈ steps → spec.IsAccepted)
    (hdated : a.status.IsDated) (hshort : a.IsShort) (hnames : a.spec.HasShortNames) :
    ∃ fields text, a.fields? = some fields ∧ writeNamed "yaml" a = .ok text ∧
      readNamed "yaml" text = .ok (ofJsonFields fields) ∧
      Manifest.actor (ofJsonFields fields) none = .ok a.roundedDown ∧
      ∀ c ∈ a.status.conditions,
        c.roundedDown.since.instant = c.since.instant / 1000000 * 1000000 := by
  obtain ⟨hnamed, haccepted⟩ : a.name ≠ [] ∧ a.spec.IsAccepted := by
    obtain ⟨hnamed, haccepted⟩ := Actor.named_accepted_of_ofEntries hread
    exact hrun ▸ Actor.named_accepted_run hnamed haccepted hspecs
  obtain ⟨fields, hfields, hfull⟩ :=
    Actor.exists_readFull_fields ⟨hnamed, haccepted, hdated⟩
  -- Each level takes two columns at most, and six levels leave the width of a line.
  have htidy : IsTidy (0 + 6) (.object fields) :=
    Actor.isTidy_of_fields? (Spec.isAccepted_iff_hasDistinctNames.mp haccepted) hshort hfields
  refine ⟨fields, textOf .yaml fields, hfields, ?_, ?_, ?_, ?_⟩
  · exact write_of_fields hfields (allIntegers_of_isTidy htidy)
  · exact read_textOf_yaml htidy ((Actor.hasShortKeys_fields_iff hfields).mpr hnames)
  · rw [Manifest.actor, Actor.ofEntries_of_readFull hfull, Except.mapError]
  · exact fun c hc => Timestamp.instant_roundedDown (hdated c hc)

/-- An actor whose texts look like other values, need escapes or are too long for a line, with
names that stand before their colon and names that do not. -/
theorem readNamed_writeNamed_yaml_escaped :
    let long : Text := List.replicate 200 (.char 'x')
    let rare : Text := List.replicate 102 (.char '𐐀')
    let entries : DocumentEntries := [
      (.text "kind", .text "Actor"),
      (.text "spec", .mapping [
        (.text "name", .text "web"), (.text "repository", .text "null"),
        (.text "commit", .text "1e3"), (.text "description", .text (long ++ " - " ++ long)),
        (.text "environments", .mapping [
          (.text "on", .text "0x1F"), (.text rare, .text " \t"), (.text "", .text "a: 'b'\n# c"),
          (.text long, .text "\"é😀\""), (.text "a\nb", .text "2024-05-02")]),
        (.text "build", .mapping [(.text "env", .mapping []),
          (.text "buildpacks", .list [.text "~", .text "- 1"])])])]
    let failed := Condition.write .failed true "Crash" "\\\t\x7f"
      ⟨⟨2024, 5, 2, by decide⟩, ⟨10, 0, 0, 500000, by decide⟩, some ⟨7200000000, by decide⟩⟩
    let steps : List Actor.Step :=
      [.regenerate (some (-3)), .set failed, .change (.erase .running)]
    ∃ a fields text, (Actor.ofEntries entries none).map (fun start => start.run steps) = .ok a ∧
      a.fields? = some fields ∧ writeNamed "yaml" a = .ok text ∧
      readNamed "yaml" text = .ok (ofJsonFields fields) ∧
      Manifest.actor (ofJsonFields fields) none = .ok a.roundedDown := by
  intro long rare entries failed steps
  obtain ⟨start, hread, hdated, hshort, hnames⟩ :
      ∃ start, Actor.ofEntries entries none = .ok start ∧
        (start.run steps).status.IsDated ∧ (start.run steps).IsShort ∧
        (start.run steps).spec.HasShortNames :=
    ⟨_, rfl, by decide +kernel, ⟨by decide +kernel, by decide +kernel⟩, by decide +kernel⟩
  have hspecs : ∀ spec, Actor.Step.respec spec ∈ steps → spec.IsAccepted := by
    simp [steps]
  obtain ⟨fields, text, hfields, hwrite, hread', hactor, -⟩ :=
    readNamed_writeNamed_yaml hread rfl hspecs hdated hshort hnames
  exact ⟨_, fields, text, by rw [hread]; rfl, hfields, hwrite, hread', hactor⟩

/-- The text of an actor is not read if a name of so few code points has too many signs, and an
actor whose generation has one digit too many has no text. -/
theorem not_read_back_yaml :
    let entries (name : Text) (generation : Int) : DocumentEntries := [
      (.text "kind", .text "Actor"),
      (.text "metadata", .mapping [(.text "generation", .scalar (.int generation))]),
      (.text "spec", .mapping [
        (.text "name", .text "web"), (.text "repository", .text "r"),
        (.text "commit", .text "c"),
        (.text "environments", .mapping [(.text name, .text "v")])])]
    (∃ a text, Actor.ofEntries (entries (List.replicate 122 (.char '𐐀')) 1) none = .ok a ∧
      a.status.IsDated ∧ a.IsShort ∧ writeNamed "yaml" a = .ok text ∧
      readNamed "yaml" text = .error (.manifest (.yaml .misplaced))) ∧
    ∃ a, Actor.ofEntries (entries "A" (10 ^ 4300)) none = .ok a ∧
      a.status.IsDated ∧ a.spec.HasShortNames ∧
      writeNamed "yaml" a = .error (.broken .longNumber) := by
  intro entries
  refine ⟨?_, ?_⟩
  · obtain ⟨a, fields, hread, hfields, hdated, hshort, hintegers, hmapped⟩ :
        ∃ a fields, Actor.ofEntries (entries (List.replicate 122 (.char '𐐀')) 1) none = .ok a ∧
          a.fields? = some fields ∧ a.status.IsDated ∧ a.IsShort ∧
          (Json.object fields).allIntegers isWritable = true ∧
          (readNamed "yaml" (textOf .yaml fields)).map (fun _ => ()) =
            .error (.manifest (.yaml .misplaced)) :=
      ⟨_, _, rfl, rfl, by decide +kernel, ⟨by decide +kernel, by decide +kernel⟩,
        by decide +kernel, by decide +kernel⟩
    refine ⟨a, textOf .yaml fields, hread, hdated, hshort, write_of_fields hfields hintegers, ?_⟩
    cases hread' : readNamed "yaml" (textOf .yaml fields) with
    | ok _ => rw [hread'] at hmapped; cases hmapped
    | error fault => rw [hread'] at hmapped; cases hmapped; rfl
  · refine ⟨_, rfl, Ledger.isDated_empty, by decide +kernel, ?_⟩
    exact write_of_long_generation rfl rfl isWritable_pow

end Manifest

end ActorManifest
