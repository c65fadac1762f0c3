import ActorManifest.Command.Show
import ActorManifest.Proofs.Command.Printing
import ActorManifest.Proofs.Document.Short
import ActorManifest.Proofs.Manifest.RoundTrip
import ActorManifest.Proofs.Spec.Ports
import ActorManifest.Proofs.Spec.Tidy

/-!
# What is shown of an actor

The lines that show an actor and those about its status hold texts of the actor as they stand, and
they can be printed if and only if these texts can be.  In the JSON form such texts are written with
escapes, so its lines can be printed wherever there is one.  They are read back as an object, and
what is derived from the spec stands in it as it was, unless halves of a pair of surrogates stand
side by side in a text.
-/

namespace ActorManifest

open Text
open Json (joined)

@[simp] theorem Text.hasSurrogate_padEnd (width : Nat) (t : Text) :
    (padEnd width t).hasSurrogate = t.hasSurrogate := by
  rw [padEnd, hasSurrogate_append, (isAscii_replicate (by decide) _).hasSurrogate, Bool.or_false]

namespace Command

variable {a : Actor} {config : Config} {d : Document} {s : Spec} {depth : Nat}

/-! ## Texts that are shown -/

/-- No text that is shown of a spec holds a surrogate. -/
structure IsPlainlyShown (s : Spec) : Prop where
  locator : s.locator.text.hasSurrogate = false
  commit : s.commit.hasSurrogate = false
  buildName : s.buildName.hasSurrogate = false
  imageTag : s.imageTag.hasSurrogate = false
  envVars : ∀ v ∈ s.envVars.getD [], v.name.hasSurrogate = false ∧ v.value.hasSurrogate = false
  protocols : ∀ b ∈ s.containerPorts.getD [], (b.protocol.getD []).hasSurrogate = false
  partners : ∀ p ∈ s.partners.getD [],
    p.name.hasSurrogate = false ∧ p.locator.text.hasSurrogate = false

/-- A setting has a text, and it can be printed. -/
def HasPrintableText [Machine] (d : Document) : Prop :=
  ∃ t, d.toText = .ok t ∧ t.hasSurrogate = false

theorem isPrintable_settingLine_iff [Machine] {label : Text} (hlabel : label.hasSurrogate = false) :
    IsPrintable (settingLine label d) ↔ HasPrintableText d := by
  cases ht : d.toText with
  | error fault =>
      simp [settingLine, settingText, ht, IsPrintable, HasPrintableText, Except.map,
        Except.mapError]
  | ok t =>
      simp [settingLine, settingText, ht, IsPrintable, HasPrintableText, Except.map,
        Except.mapError, hasSurrogate_append, hlabel]

/-! ## Lines -/

theorem hasSurrogate_variableLine (v : EnvVar) :
    (variableLine v).hasSurrogate = (v.name.hasSurrogate || v.value.hasSurrogate) := by
  simp [variableLine]

theorem hasSurrogate_portLine (b : PortBinding) :
    (portLine b).hasSurrogate = (b.protocol.getD []).hasSurrogate := by
  by_cases hnone : b.protocol.getD [] = []
  · simp [portLine, hnone, hasSurrogate_ofInt]
  · simp [portLine, hnone, hasSurrogate_ofInt]

theorem hasSurrogate_partnerLine (p : Partner) :
    (partnerLine p).hasSurrogate = (p.name.hasSurrogate || p.locator.text.hasSurrogate) := by
  simp [partnerLine]

theorem hasSurrogate_buildMode (a : Actor) : (buildMode a).hasSurrogate = false := by
  unfold buildMode
  split <;> simp

theorem hasSurrogate_conditionLine (c : Condition) :
    (conditionLine c).hasSurrogate = (c.reason.hasSurrogate || c.message.hasSurrogate) := by
  have hstatus : (statusText c.asserted).hasSurrogate = false := by
    unfold statusText
    split <;> simp
  by_cases hmessage : c.message = []
  · simp [conditionLine, hmessage, hstatus]
  · simp [conditionLine, hmessage, hstatus]

theorem hasSurrogate_partnerLines_iff {partners : List Partner} :
    (∀ line ∈ partnerLines partners, line.hasSurrogate = false) ↔
      ∀ p ∈ partners, p.name.hasSurrogate = false ∧ p.locator.text.hasSurrogate = false := by
  cases partners with
  | nil => exact iff_of_true (List.forall_mem_nil _) (List.forall_mem_nil _)
  | cons p partners =>
      simp only [partnerLines, List.forall_mem_cons, hasSurrogate_ofString, true_and,
        List.forall_mem_map, hasSurrogate_partnerLine, Bool.or_eq_false_iff]

/-- The ports on the network are ports on containers too. -/
theorem forall_mem_servicePorts
    {p : PortBinding → Prop} (hports : ∀ b ∈ s.containerPorts.getD [], p b) :
    ∀ b ∈ s.servicePorts.getD [], p b := by
  intro b hb
  rw [Spec.getD_servicePorts] at hb
  rw [Spec.getD_containerPorts] at hports
  exact hports b (List.map_subset _ List.filter_sublist.subset hb)

theorem isPlainlyShown_iff_derivedLines :
    IsPlainlyShown a.spec ↔ a.spec.locator.text.hasSurrogate = false ∧
      ∀ line ∈ derivedLines a, line.hasSurrogate = false := by
  simp only [derivedLines, List.flatten_cons, List.flatten_nil, List.append_nil,
    List.forall_mem_append, List.forall_mem_cons, List.forall_mem_map, hasSurrogate_variableLine,
    hasSurrogate_portLine, hasSurrogate_partnerLines_iff, hasSurrogate_concat, List.any_cons,
    List.any_nil, hasSurrogate_ofString, hasSurrogate_buildMode, Bool.or_false, Bool.false_or,
    Bool.or_eq_false_iff, List.not_mem_nil, false_implies, implies_true, true_and, and_true]
  constructor
  · intro hplain
    exact ⟨hplain.locator, ⟨hplain.commit, hplain.buildName, hplain.imageTag⟩, hplain.envVars,
      hplain.protocols, forall_mem_servicePorts hplain.protocols, hplain.partners⟩
  · rintro ⟨hlocator, ⟨hcommit, hbuildName, himageTag⟩, hvars, hprotocols, -, hpartners⟩
    exact ⟨hlocator, hcommit, hbuildName, himageTag, hvars, hprotocols, hpartners⟩

/-- The lines that show an actor can be printed if and only if the settings among them have texts
that can be, and no other text among them holds a surrogate. -/
theorem isPrintable_showLines_iff [Machine] :
    (∀ line ∈ showLines config a, IsPrintable line) ↔
      a.name.hasSurrogate = false ∧ HasPrintableText (shownSpace config a) ∧
        HasPrintableText (shownPath config a) ∧ IsPlainlyShown a.spec := by
  simp only [showLines, List.forall_mem_append, List.forall_mem_cons, List.forall_mem_map,
    isPrintable_ok_iff, isPrintable_settingLine_iff (hasSurrogate_ofString _),
    isPlainlyShown_iff_derivedLines, hasSurrogate_concat, List.any_cons, List.any_nil,
    hasSurrogate_ofString, Bool.or_false, Bool.false_or]
  tauto

/-- The lines about the status of an actor can be printed if and only if no text of it holds a
surrogate. -/
theorem hasSurrogate_statusLines_iff :
    (∀ line ∈ statusLines a, line.hasSurrogate = false) ↔
      a.name.hasSurrogate = false ∧ ∀ c ∈ a.status.conditions,
        c.reason.hasSurrogate = false ∧ c.message.hasSurrogate = false := by
  have hconditions : (∀ line ∈ conditionLines a.status.conditions, line.hasSurrogate = false) ↔
      ∀ c ∈ a.status.conditions,
        c.reason.hasSurrogate = false ∧ c.message.hasSurrogate = false := by
    cases a.status.conditions with
    | nil => simp [conditionLines]
    | cons c conditions =>
        simp only [conditionLines, List.forall_mem_cons, hasSurrogate_ofString, true_and,
          List.forall_mem_map, hasSurrogate_conditionLine, Bool.or_eq_false_iff]
  simp only [statusLines, List.forall_mem_append, List.forall_mem_cons, hconditions,
    hasSurrogate_concat, List.any_cons, List.any_nil, hasSurrogate_ofString, Bool.or_false,
    Bool.false_or, List.not_mem_nil, false_implies, implies_true, and_true]

theorem isAscii_contentHash (s : Spec) : s.contentHash.IsAscii :=
  isAscii_flatMap fun _ _ => isAscii_ofNatHex 8 _

/-- The lines that confirm a manifest can be printed if and only if the name of its actor can. -/
theorem hasSurrogate_validLines_iff :
    (∀ line ∈ validLines a, line.hasSurrogate = false) ↔ a.name.hasSurrogate = false := by
  simp only [validLines, List.forall_mem_cons, hasSurrogate_concat, List.any_cons, List.any_nil,
    hasSurrogate_ofString, (isAscii_contentHash a.spec).hasSurrogate, Bool.or_false,
    Bool.false_or, List.not_mem_nil, false_implies, implies_true, and_true]

/-! ## The JSON form -/

/-- The fields tell what is derived from a spec. -/
structure IsDerivedFrom (s : Spec) (fields : List (Text × Json)) : Prop where
  envVars : fields.lookup (ofString "env") = some (listOrNull EnvVar.toJson s.envVars)
  containerPorts : fields.lookup (ofString "container_ports") =
    some (listOrNull PortBinding.toContainerJson s.containerPorts)
  servicePorts : fields.lookup (ofString "service_ports") =
    some (listOrNull PortBinding.toServiceJson s.servicePorts)
  locator : fields.lookup (ofString "url") = some (.text s.locator.text)
  partners : fields.lookup (ofString "partners") =
    some (.array ((s.partners.getD []).map partnerJson))

theorem isDerivedFrom_derivedFields (a : Actor) (space path : Json) :
    IsDerivedFrom a.spec (derivedFields a space path) := by
  constructor <;> simp [derivedFields, List.lookup_append]

theorem derivedJson_eq_ok_iff [Machine] {j : Json} :
    derivedJson config a = .ok j ↔
      ∃ space path, (shownSpace config a).toJson = .ok space ∧
        (shownPath config a).toJson = .ok path ∧ j = .object (derivedFields a space path) := by
  cases hspace : (shownSpace config a).toJson with
  | error fault => simp [derivedJson, hspace, bind, Except.bind, Except.mapError]
  | ok space =>
      cases hpath : (shownPath config a).toJson with
      | error fault => simp [derivedJson, hspace, hpath, bind, Except.bind, Except.mapError]
      | ok path =>
          simp [derivedJson, hspace, hpath, bind, Except.bind, Except.mapError, pure, Except.pure,
            eq_comm]

/-- The JSON form can be printed wherever there is one, whatever its texts hold. -/
theorem isPrintable_derivedJson_iff [Machine] :
    IsPrintable ((derivedJson config a).map fun derived => derived.indented 0) ↔
      ∃ space path, (shownSpace config a).toJson = .ok space ∧
        (shownPath config a).toJson = .ok path := by
  constructor
  · rintro ⟨t, ht, -⟩
    obtain ⟨j, hj, -⟩ := map_eq_ok_iff.mp ht
    obtain ⟨space, path, hspace, hpath, -⟩ := derivedJson_eq_ok_iff.mp hj
    exact ⟨space, path, hspace, hpath⟩
  · rintro ⟨space, path, hspace, hpath⟩
    rw [derivedJson_eq_ok_iff.mpr ⟨space, path, hspace, hpath, rfl⟩]
    exact isPrintable_ok_iff.mpr (Json.isAscii_indented 0 _).hasSurrogate

/-! ## Reading the JSON form back -/

/-- No text of what is derived from the spec holds a first and a second half of a pair of
surrogates side by side. -/
structure HasJoinedText (s : Spec) : Prop where
  envVars : ∀ v ∈ s.envVars.getD [], joined v.name = v.name ∧ joined v.value = v.value
  protocols : ∀ b ∈ s.containerPorts.getD [], ∀ t ∈ b.protocol, joined t = t
  locator : joined s.locator.text = s.locator.text
  partners : ∀ p ∈ s.partners.getD [],
    joined p.name = p.name ∧ joined p.locator.text = p.locator.text

theorem isTidy_listOrNull
    {α : Type} {encode : α → Json} {items : Option (List α)}
    (hitems : ∀ item ∈ items.getD [], Json.IsTidy depth (encode item)) :
    Json.IsTidy (depth + 1) (listOrNull encode items) := by
  cases items with
  | none => exact .null
  | some items => exact Json.isTidy_array_map hitems

theorem hasJoinedText_listOrNull
    {α : Type} {encode : α → Json} {items : Option (List α)}
    (hitems : ∀ item ∈ items.getD [], (encode item).HasJoinedText) :
    (listOrNull encode items).HasJoinedText := by
  cases items with
  | none => exact List.forall_mem_nil _
  | some items => exact Json.hasJoinedText_array_iff.mpr (List.forall_mem_map.mpr hitems)

theorem joined_ofString (name : String) : joined (ofString name) = ofString name :=
  Json.joined_eq_self (hasSurrogate_ofString name)

/-- A record of two texts is tidy. -/
theorem isTidy_texts
    {first second : String} (hdistinct : first ≠ second) (t u : Text) :
    Json.IsTidy (depth + 1)
      (.object (Json.field first (.text t) ++ Json.field second (.text u))) := by
  have hfirst : Json.IsRecord depth [first] (Json.field first (.text t)) :=
    Json.isRecord_text first t
  exact (hfirst.append (Json.isRecord_text second u)).isTidy (by simp [hdistinct])

theorem hasJoinedText_text {t : Text} (ht : joined t = t) : (Json.text t).HasJoinedText :=
  List.forall_mem_singleton.mpr ht

theorem hasJoinedText_texts
    (first second : String) {t u : Text} (ht : joined t = t) (hu : joined u = u) :
    (Json.object (Json.field first (.text t) ++ Json.field second (.text u))).HasJoinedText := by
  rw [Json.hasJoinedText_object_iff]
  simp only [Json.field, List.forall_mem_append, List.forall_mem_singleton]
  exact ⟨⟨joined_ofString first, hasJoinedText_text ht⟩, joined_ofString second,
    hasJoinedText_text hu⟩

theorem isTidy_binding
    {name : String} (hname : name ≠ "protocol") {b : PortBinding}
    (hb : isWritable b.number = true) : Json.IsTidy (depth + 1) (b.toJson name) := by
  have hnumber : Json.IsRecord depth [name] (Json.field name (.int b.number)) :=
    Json.isRecord_field name (.int hb)
  exact (hnumber.append (Json.isRecord_text? "protocol" b.protocol)).isTidy (by simp [hname])

theorem hasJoinedText_binding
    (name : String) {b : PortBinding} (hb : ∀ t ∈ b.protocol, joined t = t) :
    (b.toJson name).HasJoinedText := by
  have hnumber : (Json.int b.number).HasJoinedText := List.forall_mem_nil _
  rw [PortBinding.toJson, Json.hasJoinedText_object_iff, List.forall_mem_append]
  refine ⟨List.forall_mem_singleton.mpr ⟨joined_ofString name, hnumber⟩, ?_⟩
  cases hprotocol : b.protocol with
  | none => exact List.forall_mem_nil _
  | some t =>
      exact List.forall_mem_singleton.mpr
        ⟨joined_ofString "protocol", hasJoinedText_text (hb t hprotocol)⟩

theorem isWritable_containerPorts {s : Spec} :
    ∀ b ∈ s.containerPorts.getD [], isWritable b.number = true := by
  rw [Spec.getD_containerPorts]
  exact List.forall_mem_map.mpr fun p _ => isWritable_of_isPortNumber p.isNumber

section

variable (depth : Nat) (s : Spec)

theorem isTidy_envVars : Json.IsTidy (depth + 2) (listOrNull EnvVar.toJson s.envVars) :=
  isTidy_listOrNull fun v _ => isTidy_texts (by decide) v.name v.value

theorem isTidy_containerPorts :
    Json.IsTidy (depth + 2) (listOrNull PortBinding.toContainerJson s.containerPorts) :=
  isTidy_listOrNull fun b hb => isTidy_binding (by decide) (isWritable_containerPorts b hb)

theorem isTidy_servicePorts :
    Json.IsTidy (depth + 2) (listOrNull PortBinding.toServiceJson s.servicePorts) :=
  isTidy_listOrNull fun b hb =>
    isTidy_binding (by decide) (forall_mem_servicePorts isWritable_containerPorts b hb)

theorem isTidy_partners :
    Json.IsTidy (depth + 2) (.array ((s.partners.getD []).map partnerJson)) :=
  Json.isTidy_array_map fun p _ => isTidy_texts (by decide) p.name p.locator.text

end

theorem fits_derivedFields
    (a : Actor) {space path : Json} (hspace : Json.Fits (depth + 2) space)
    (hpath : Json.Fits (depth + 2) path) :
    Json.Fits (depth + 3) (.object (derivedFields a space path)) := by
  refine .object ?_
  simp only [derivedFields, Json.field, List.forall_mem_append, List.forall_mem_singleton]
  exact ⟨⟨⟨⟨⟨⟨⟨⟨⟨⟨⟨.text _, hspace⟩, .text _⟩, hpath⟩, .text _⟩, .text _⟩, .text _⟩, .text _⟩,
    (isTidy_envVars depth a.spec).fits⟩, (isTidy_containerPorts depth a.spec).fits⟩,
    (isTidy_servicePorts depth a.spec).fits⟩, (isTidy_partners depth a.spec).fits⟩

/-- The fields are read again one by one. -/
theorem reread_derivedFields (a : Actor) (space path : Json) :
    (Json.object (derivedFields a space path)).reread =
      .object ((derivedFields a space path).map fun field => (field.1, field.2.reread)) := by
  have hnames : ∀ field ∈ derivedFields a space path, joined field.1 = field.1 := by
    simp only [derivedFields, Json.field, List.forall_mem_append, List.forall_mem_singleton,
      joined_ofString, and_self]
  have hkeys : (derivedFields a space path).map Prod.fst =
      ["name", "namespace", "url", "path", "commit", "build_name", "docker_tag", "build_mode",
        "env", "container_ports", "service_ports", "partners"].map ofString := rfl
  refine Json.reread_object_of_nodup hnames ?_
  rw [hkeys]
  exact List.Nodup.map (fun _ _ => ofString_inj.mp) (by decide)

/-- What is derived from a spec is read again as it is if its texts are. -/
theorem IsDerivedFrom.reread
    {fields : List (Text × Json)} (hderived : IsDerivedFrom s fields) (hjoined : HasJoinedText s) :
    IsDerivedFrom s (fields.map fun field => (field.1, field.2.reread)) := by
  have henv : (listOrNull EnvVar.toJson s.envVars).HasJoinedText :=
    hasJoinedText_listOrNull fun v hv =>
      hasJoinedText_texts _ _ (hjoined.envVars v hv).1 (hjoined.envVars v hv).2
  have hcontainer : (listOrNull PortBinding.toContainerJson s.containerPorts).HasJoinedText :=
    hasJoinedText_listOrNull fun b hb => hasJoinedText_binding _ (hjoined.protocols b hb)
  have hservice : (listOrNull PortBinding.toServiceJson s.servicePorts).HasJoinedText :=
    hasJoinedText_listOrNull fun b hb =>
      hasJoinedText_binding _ (forall_mem_servicePorts hjoined.protocols b hb)
  have hpartners : (Json.array ((s.partners.getD []).map partnerJson)).HasJoinedText :=
    Json.hasJoinedText_array_iff.mpr <| List.forall_mem_map.mpr fun p hp =>
      hasJoinedText_texts _ _ (hjoined.partners p hp).1 (hjoined.partners p hp).2
  constructor
  · rw [Json.lookup_map, hderived.envVars, Option.map_some,
      henv.reread_eq_self (isTidy_envVars 0 s)]
  · rw [Json.lookup_map, hderived.containerPorts, Option.map_some,
      hcontainer.reread_eq_self (isTidy_containerPorts 0 s)]
  · rw [Json.lookup_map, hderived.servicePorts, Option.map_some,
      hservice.reread_eq_self (isTidy_servicePorts 0 s)]
  · rw [Json.lookup_map, hderived.locator, Option.map_some, Json.reread, hjoined.locator]
  · rw [Json.lookup_map, hderived.partners, Option.map_some,
      hpartners.reread_eq_self (isTidy_partners 0 s)]

/-- The setting has a JSON form that leaves a level for what is around it. -/
def HasShallowForm [Machine] (d : Document) : Prop :=
  ∃ j, d.toJson = .ok j ∧ j.depth < Machine.valueLevels

theorem HasShallowForm.fits [Machine]
    (hd : HasShallowForm d) {j : Json} (hj : d.toJson = .ok j) {levels : Nat}
    (hlevels : Machine.valueLevels = levels + 1) : Json.Fits levels j := by
  obtain ⟨form, hform, hdepth⟩ := hd
  cases hform.symm.trans hj
  have hshort := Document.allIntegers_of_toJson hj
  rw [hlevels] at hdepth
  exact Json.fits_of_depth_le j _ (Nat.le_of_lt_succ hdepth) hshort

theorem hasShallowForm_text [Machine] (t : Text) : HasShallowForm (.text t) :=
  ⟨.text t, rfl, Nat.lt_of_lt_of_le (Nat.succ_pos _) Machine.le_valueLevels⟩

/-- The lines of the JSON form are read as an object, and its fields are what is derived from the
spec if nothing in the texts of these is joined. -/
theorem exists_read_of_derivedJson [Machine]
    {j : Json} (hj : derivedJson config a = .ok j) (hspace : HasShallowForm (shownSpace config a))
    (hpath : HasShallowForm (shownPath config a)) :
    ∃ fields, Json.read (j.indented 0 ++ ofString "\n") = .ok (.object fields) ∧
      (HasJoinedText a.spec → IsDerivedFrom a.spec fields) := by
  obtain ⟨space, path, hspace', hpath', rfl⟩ := derivedJson_eq_ok_iff.mp hj
  obtain ⟨levels, hlevels⟩ : ∃ levels, Machine.valueLevels = levels + 3 :=
    Nat.exists_eq_add_of_le' (Nat.le_trans (by decide) Machine.le_valueLevels)
  have hfits : Json.Fits Machine.valueLevels (.object (derivedFields a space path)) := by
    rw [hlevels]
    exact fits_derivedFields a (hspace.fits hspace' hlevels) (hpath.fits hpath' hlevels)
  have hread := Json.read_of_spells (hfits.spells_indented 0) Manifest.isBlank_newline
  rw [reread_derivedFields] at hread
  exact ⟨_, hread, (isDerivedFrom_derivedFields a space path).reread⟩

end Command
end ActorManifest
