import ActorManifest.Proofs.Json.Layout
import ActorManifest.Proofs.Json.Limits
import ActorManifest.Proofs.Readings
import ActorManifest.Spec.Basic

/-!
# Variables as they are declared

Each entry of a mapping declares a variable: its key and its value become text.  Keys of different
kinds can have the same text.  Of the variables that they declare one is kept, at the place of the
first and with the value of the last.  So no entry is lost exactly if the texts of the keys
differ, as they always do where the keys are texts themselves.
-/

namespace ActorManifest

open Document

/-! ## Keys -/

/-- The keys of a mapping are different texts. -/
def DocumentEntries.HasTextKeys (entries : DocumentEntries) : Prop :=
  ∃ names : List Text, names.Nodup ∧ entries.map Prod.fst = names.map .text

namespace Json

/-- The mappings of a JSON text have different texts as keys, and so have those inside of them. -/
theorem IsReadable.hasTextKeys {levels : Nat} {j : Json} (hj : IsReadable levels j)
    {entries : DocumentEntries} (hentries : (ofJson j).entries? = some entries) :
    entries.HasTextKeys := by
  cases hj with
  | @object _ fields hdistinct _ =>
      rw [entries?_ofJson_object, ofJsonFields_eq_map] at hentries
      cases hentries
      exact ⟨fields.map Prod.fst, hdistinct, by simp⟩
  | null | bool _ | int _ | float _ | text _ | array _ => cases hentries

theorem IsReadable.exists_under? {levels : Nat} {j : Json} (hj : IsReadable levels j)
    {name : String} {d : Document} (hfield : (ofJson j).under? name = some d) :
    ∃ levels k, IsReadable levels k ∧ d = ofJson k := by
  cases hj with
  | @object levels fields _ hvalues =>
      obtain ⟨⟨key, value⟩, hmem, hvalue⟩ := List.exists_of_findSome?_eq_some hfield
      rw [ofJsonFields_eq_map] at hmem
      obtain ⟨field, hfield, heq⟩ := List.mem_map.mp hmem
      cases heq
      refine ⟨levels, field.2, hvalues field hfield, ?_⟩
      dsimp only at hvalue
      split at hvalue
      · exact (Option.some.inj hvalue).symm
      · cases hvalue
  | null | bool _ | int _ | float _ | text _ | array _ => cases hfield

end Json

/-! ## Declared variables -/

namespace EnvVar

/-- The record is the variable that an entry declares.  A truth value is written in small letters
where it is the value. -/
structure IsDeclaredBy [Machine] (entry : Scalar × Document) (v : EnvVar) : Prop where
  name : entry.1.text? = some v.name
  truth : ∀ b, entry.2 = .scalar (.bool b) → v.value = if b then "true" else "false"
  other : (∀ b, entry.2 ≠ .scalar (.bool b)) → entry.2.toText = .ok v.value

/-- The record is the last of a list that has its name. -/
def IsLastOf (declared : List EnvVar) (v : EnvVar) : Prop :=
  ∃ before after, declared = before ++ v :: after ∧ ∀ later ∈ after, later.name ≠ v.name

/-- The records are kept of the variables that a mapping declares: one for each name, at the place
of the first variable of that name and with the value of the last. -/
def AreKeptOf [Machine] (entries : DocumentEntries) (kept : List EnvVar) : Prop :=
  ∃ declared : List EnvVar, List.Forall₂ IsDeclaredBy entries declared ∧
    kept.map name = (declared.map name).eraseDups ∧ (∀ v ∈ kept, v.IsLastOf declared) ∧
    (kept = declared ↔ (declared.map name).Nodup) ∧ (entries.HasTextKeys → kept = declared)

/-- The records are those of a field: none if it is unset, and otherwise what is kept of the
mapping in it. -/
def AreReadFrom [Machine] (found : Option Document) (records : Option (List EnvVar)) : Prop :=
  (records = none ↔ IsUnset found) ∧
    ∀ entries, found.bind entries? = some entries →
      ∃ kept, records = some kept ∧ AreKeptOf entries kept

theorem isDeclaredBy_of_variableOf [Machine]
    {owner : Owner} {field : String} {entry : Scalar × Document} {pair : Text × Text}
    (hread : Field.variableOf owner field entry = .ok pair) :
    IsDeclaredBy entry ⟨pair.1, pair.2⟩ := by
  unfold Field.variableOf at hread
  split at hread
  · split at hread <;> cases hread
  · rename_i key value _
    obtain ⟨content, hcontent, hread⟩ := bind_eq_ok_iff.mp hread
    rw [mapError_eq_ok_iff] at hcontent
    split at hread
    · rename_i name hname
      cases hread
      refine ⟨hname, ?_, ?_⟩
      · rintro b rfl
        cases b <;> exact (Except.ok.inj hcontent).symm
      · intro hother
        unfold Field.variableText at hcontent
        split at hcontent
        · exact absurd rfl (hother _)
        · exact hcontent
    · cases hread

/-- Entries whose keys are different texts declare variables of different names. -/
theorem nodup_names_of_hasTextKeys [Machine]
    {entries : DocumentEntries} {declared : List EnvVar}
    (hdeclared : List.Forall₂ IsDeclaredBy entries declared) (hkeys : entries.HasTextKeys) :
    (declared.map name).Nodup := by
  obtain ⟨names, hnodup, hnames⟩ := hkeys
  have heq : declared.map name = names := by
    clear hnodup
    induction hdeclared generalizing names with
    | nil =>
        rw [List.map_nil, eq_comm, List.map_eq_nil_iff] at hnames
        rw [hnames, List.map_nil]
    | @cons entry v entries declared hv _ ih =>
        cases names with
        | nil => cases hnames
        | cons t names =>
            obtain ⟨hkey, hrest⟩ := List.cons.inj hnames
            have hname := hv.name
            rw [hkey] at hname
            rw [List.map_cons, ih names hrest, Option.some.inj hname]
  rwa [heq]

theorem areKeptOf_ofList [Machine]
    {owner : Owner} {field : String} {entries : DocumentEntries} {pairs : List (Text × Text)}
    (hread : entries.mapM (Field.variableOf owner field) = .ok pairs) :
    AreKeptOf entries
      ((Entries.ofList (· == ·) pairs).map fun pair => ⟨pair.1, pair.2⟩) := by
  let record : Text × Text → EnvVar := fun pair => ⟨pair.1, pair.2⟩
  have hnames : ∀ list : List (Text × Text), (list.map record).map name = list.map Prod.fst := by
    intro list
    rw [List.map_map]
    rfl
  obtain ⟨hnodup, hkeys⟩ := Entries.keys_ofList pairs
  have hdeclared : List.Forall₂ IsDeclaredBy entries (pairs.map record) := by
    rw [List.forall₂_map_right_iff]
    exact (mapM_eq_ok_iff.mp hread).imp fun _ _ => isDeclaredBy_of_variableOf
  have hall : (Entries.ofList (· == ·) pairs).map record = pairs.map record ↔
      ((pairs.map record).map name).Nodup := by
    constructor
    · intro heq
      rw [← heq, hnames]
      exact hnodup
    · intro hdistinct
      rw [hnames] at hdistinct
      rw [Entries.ofList_of_nodup hdistinct]
  refine ⟨pairs.map record, hdeclared, ?_, ?_, hall, ?_⟩
  · rw [hnames, hnames, hkeys]
  · intro v hv
    obtain ⟨pair, hpair, rfl⟩ := List.mem_map.mp hv
    obtain ⟨before, after, rfl, hafter⟩ := Entries.exists_of_mem_ofList hpair
    exact ⟨before.map record, after.map record, by simp [record], List.forall_mem_map.mpr hafter⟩
  · intro htexts
    exact hall.mpr (nodup_names_of_hasTextKeys hdeclared htexts)

theorem areReadFrom_of_variables? [Machine]
    {owner : Owner} {field : String} {entries : DocumentEntries}
    {value : Option (Entries Text Text)}
    (hread : Field.variables? owner field entries = .ok value) :
    AreReadFrom (lookup? field entries) (envVars value) := by
  rcases Field.holds_of_variables? hread with
    ⟨rfl, hunset⟩ | ⟨mapping, items, pairs, hentry, hitems, hpairs, rfl⟩
  · refine ⟨iff_of_true rfl hunset, ?_⟩
    intro items hitems
    rw [hunset.bind_entries?] at hitems
    cases hitems
  · refine ⟨iff_of_false (by simp [envVars]) ?_, ?_⟩
    · intro hunset
      have hnone := hunset.bind_entries?
      rw [hentry, Option.bind_some, hitems] at hnone
      cases hnone
    · intro found hfound
      rw [hentry, Option.bind_some, hitems] at hfound
      cases hfound
      exact ⟨_, rfl, areKeptOf_ofList hpairs⟩

end EnvVar

/-! ## Specs and builds -/

theorem Build.areReadFrom_env [Machine]
    {d : Document} {b : Build} (hread : Build.ofDocument d = .ok b) :
    EnvVar.AreReadFrom (d.under? "env") (envVars b.env) := by
  simp only [Build.ofDocument, bind_eq_ok_iff] at hread
  obtain ⟨entries, hentries, packs, -, context, -, env, henv, dockerfile, -, builder, -, hb⟩ := hread
  cases hb
  rw [entriesOf_eq_ok_iff] at hentries
  rw [under?_eq hentries]
  exact EnvVar.areReadFrom_of_variables? henv

namespace Spec

theorem ofDocument_of_build? [Machine] {entries : DocumentEntries} {value : Option Build}
    (hread : build? entries = .ok value) {b : Build} (hb : b ∈ value) :
    ∃ d, lookup? "build" entries = some d ∧ Build.ofDocument d = .ok b := by
  unfold build? at hread
  split at hread
  · cases hread
    cases hb
  · cases hread
    cases hb
  · rename_i d _ hentry
    obtain ⟨found, hfound, rfl⟩ := map_eq_ok_iff.mp hread
    cases hb
    exact ⟨d, hentry, hfound⟩

theorem areReadFrom_environments [Machine]
    {d : Document} {s : Spec} (hread : ofDocument d = .ok s) :
    EnvVar.AreReadFrom (d.under? "environments") s.envVars ∧
      ∀ b ∈ s.build, EnvVar.AreReadFrom ((d.under? "build").bind (under? "env"))
        (ActorManifest.envVars b.env) := by
  simp only [ofDocument, bind_eq_ok_iff] at hread
  obtain ⟨entries, hentries, partners, -, services, -, sync, -, name, -, repository, -,
    commit, -, description, -, image, -, command, -, path, -, reference, -, environments,
    henvironments, build, hbuild, hs⟩ := hread
  cases hs
  rw [entriesOf_eq_ok_iff] at hentries
  refine ⟨?_, ?_⟩
  · rw [under?_eq hentries]
    exact EnvVar.areReadFrom_of_variables? henvironments
  · intro b hb
    obtain ⟨found, hfound, hread⟩ := ofDocument_of_build? hbuild hb
    rw [under?_eq hentries, hfound]
    exact Build.areReadFrom_env hread

/-- The variables of a spec and of a build are those that their documents declare, but that of
variables of one name only one is kept.  Where the keys are different texts, as in JSON, every
entry has its own variable. -/
theorem variables_of_ofDocument [Machine] (d : Document) :
    (∀ s, ofDocument d = .ok s →
      EnvVar.AreReadFrom (d.under? "environments") s.envVars ∧
        ∀ b ∈ s.build, EnvVar.AreReadFrom ((d.under? "build").bind (under? "env"))
          (ActorManifest.envVars b.env)) ∧
      (∀ b, Build.ofDocument d = .ok b →
        EnvVar.AreReadFrom (d.under? "env") (ActorManifest.envVars b.env)) ∧
      ∀ t j, Json.read t = .ok j → d = ofJson j → ∀ found,
        (found = d.under? "environments" ∨ found = d.under? "env" ∨
          found = (d.under? "build").bind (under? "env")) →
        ∀ entries, found.bind entries? = some entries → entries.HasTextKeys := by
  refine ⟨fun s => areReadFrom_environments, fun b => Build.areReadFrom_env, ?_⟩
  rintro t j hread rfl found hfound entries hentries
  have hj := Json.isReadable_of_read hread
  obtain ⟨d, hd, hentries⟩ := Option.bind_eq_some_iff.mp hentries
  obtain ⟨levels, k, hk, rfl⟩ : ∃ levels k, Json.IsReadable levels k ∧ d = ofJson k := by
    rcases hfound with rfl | rfl | rfl
    · exact hj.exists_under? hd
    · exact hj.exists_under? hd
    · obtain ⟨build, hbuild, henv⟩ := Option.bind_eq_some_iff.mp hd
      obtain ⟨levels, l, hl, rfl⟩ := hj.exists_under? hbuild
      exact hl.exists_under? henv
  exact hk.hasTextKeys hentries

/-- Three entries of which two have one name, in a spec and in its build. -/
theorem variables_of_ofDocument_one_name :
    let entries : DocumentEntries := [
      (.bool true, .text "a"), (.text "B", .scalar (.bool false)), (.text "True", .text "c")]
    let build : Document := .mapping [(.text "env", .mapping entries)]
    let d : Document := .mapping [
      (.text "name", .text "web"), (.text "repository", .text "r"), (.text "commit", .text "c"),
      (.text "environments", .mapping entries), (.text "build", build)]
    let kept : List EnvVar := [⟨"True", "c"⟩, ⟨"B", "false"⟩]
    let j : Json := .object [("env", .object [("1", .bool true), ("true", .null)])]
    (∃ s, ofDocument d = .ok s ∧ s.envVars = some kept ∧
        EnvVar.AreReadFrom (d.under? "environments") s.envVars) ∧
      (∃ b, Build.ofDocument build = .ok b ∧ ActorManifest.envVars b.env = some kept ∧
        EnvVar.AreReadFrom (build.under? "env") (ActorManifest.envVars b.env)) ∧
      Json.read j.compact = .ok j ∧
      ∃ declared, ((ofJson j).under? "env").bind entries? = some declared ∧
        declared.HasTextKeys := by
  intro entries build d kept j
  have htidy : Json.IsTidy Machine.valueLevels j := by
    refine .object (by decide) (List.forall_mem_singleton.mpr (.object (by decide) ?_))
    exact List.forall_mem_cons.mpr ⟨.bool true, List.forall_mem_singleton.mpr .null⟩
  have hread : Json.read j.compact = .ok j := Json.read_compact htidy (by decide)
  obtain ⟨hspec, -⟩ := variables_of_ofDocument d
  obtain ⟨-, hbuild, -⟩ := variables_of_ofDocument build
  obtain ⟨-, -, hjson⟩ := variables_of_ofDocument (ofJson j)
  exact ⟨⟨_, rfl, rfl, (hspec _ rfl).1⟩, ⟨_, rfl, rfl, hbuild _ rfl⟩, hread,
    _, rfl, hjson _ _ hread rfl _ (.inr (.inl rfl)) _ rfl⟩

/-- Of the variables that three entries declare, one is lost, and the name of another is a truth
value with a capital letter. -/
theorem envVars_of_one_name :
    let entries : DocumentEntries := [
      (.int 1, .text "a"), (.text "1", .text "b"), (.bool true, .text "c")]
    let d : Document := .mapping [
      (.text "name", .text "web"), (.text "repository", .text "r"), (.text "commit", .text "c"),
      (.text "environments", .mapping entries)]
    entries.length = 3 ∧
      (ofDocument d).map Spec.envVars = .ok (some [⟨"1", "b"⟩, ⟨"True", "c"⟩]) := by
  decide +kernel

end Spec

end ActorManifest
