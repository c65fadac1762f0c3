import ActorManifest.Manifest
import ActorManifest.Proofs.Actor.Reload
import ActorManifest.Proofs.Spec.Tidy

/-!
# Manifests in JSON are read back

An actor that was read from a manifest and then changed is written as a text that is read as
its fields, and from these the actor is read with its times rounded down.  The fields are tidy
provided that no generation has too many digits; an actor with such a generation can be had,
and it has no text.
-/

namespace ActorManifest

open Json

/-! ## Actors are written tidily -/

variable {depth : Nat}

/-- The generation of a condition, if any, is short enough to be written. -/
def Condition.IsShort (c : Condition) : Prop :=
  ∀ n ∈ c.generation, isWritable n = true

instance (c : Condition) : Decidable c.IsShort :=
  inferInstanceAs (Decidable (∀ n ∈ c.generation, isWritable n = true))

theorem Condition.isTidy_of_toJson?
    {c : Condition} {j : Json} (hshort : c.IsShort) (hj : c.toJson? = some j) :
    IsTidy (depth + 1) j := by
  obtain ⟨since, -, rfl⟩ := Option.map_eq_some_iff.mp hj
  have hphase : IsRecord depth ["type"] (field "type" (.text c.phase.name)) :=
    isRecord_text "type" _
  have hgeneration : IsRecord depth ["observedGeneration"]
      (field? "observedGeneration" .int c.generation) :=
    isRecord_field? _ fun n hn => .int (hshort n hn)
  have hfields := hphase
    |>.append (isRecord_text "status" (statusText c.asserted))
    |>.append (isRecord_text "reason" c.reason)
    |>.append (isRecord_text "message" c.message)
    |>.append (isRecord_text "lastTransitionTime" since)
    |>.append hgeneration
  exact hfields.isTidy (by decide)

theorem Condition.exists_of_mem_mapM
    {conditions : List Condition} {items : List Json}
    (hitems : conditions.mapM Condition.toJson? = some items) :
    ∀ item ∈ items, ∃ c ∈ conditions, c.toJson? = some item := by
  induction conditions generalizing items with
  | nil =>
      cases hitems
      exact List.forall_mem_nil _
  | cons c rest ih =>
      simp only [List.mapM_cons, Option.bind_eq_bind, Option.bind_eq_some_iff] at hitems
      obtain ⟨j, hj, more, hmore, hall⟩ := hitems
      cases hall
      refine List.forall_mem_cons.mpr ⟨⟨c, List.mem_cons_self, hj⟩, ?_⟩
      intro item hitem
      obtain ⟨d, hd, hitem⟩ := ih hmore item hitem
      exact ⟨d, List.mem_cons_of_mem c hd, hitem⟩

theorem Ledger.isTidy_of_toJson?
    {l : Ledger} {j : Json} (hshort : ∀ c ∈ l.conditions, c.IsShort)
    (hj : l.toJson? = some j) : IsTidy (depth + 3) j := by
  unfold Ledger.toJson? at hj
  split at hj
  · cases hj
    exact .object List.nodup_nil (List.forall_mem_nil _)
  · obtain ⟨items, hitems, rfl⟩ := Option.map_eq_some_iff.mp hj
    have hall : ∀ item ∈ items, IsTidy (depth + 1) item := by
      intro item hitem
      obtain ⟨c, hc, hj⟩ := Condition.exists_of_mem_mapM hitems item hitem
      exact Condition.isTidy_of_toJson? (hshort c hc) hj
    exact (isRecord_field "conditions" (.array hall)).isTidy (by decide)

namespace Actor

/-- The generation of an actor and those of its conditions are short enough to be written. -/
structure IsShort (a : Actor) : Prop where
  generation : ∀ n ∈ a.generation, isWritable n = true
  conditions : ∀ c ∈ a.status.conditions, c.IsShort

theorem isTidy_of_fields?
    {a : Actor} {fields : List (Text × Json)} (hdistinct : a.spec.HasDistinctNames)
    (hshort : a.IsShort) (hfields : a.fields? = some fields) :
    IsTidy (depth + 6) (.object fields) := by
  obtain ⟨status, hstatus, rfl⟩ := Option.map_eq_some_iff.mp hfields
  have hgeneration : IsRecord (depth + 4) ["generation"]
      (field? "generation" .int a.generation) :=
    isRecord_field? _ fun n hn => .int (hshort.generation n hn)
  have hmetadata := (isRecord_text "name" a.name)
    |>.append (isRecord_text? "namespace" a.space)
    |>.append hgeneration
  have hspec : IsTidy (depth + 5) a.spec.toJson := Spec.isTidy_toJson hdistinct
  have hstatus : IsRecord (depth + 5) ["status"]
      (if a.status.conditions.isEmpty then [] else field "status" status) := by
    split
    · exact ⟨List.nil_sublist _, List.forall_mem_nil _⟩
    · exact isRecord_field "status" (Ledger.isTidy_of_toJson? hshort.conditions hstatus)
  have hall := (isRecord_text "apiVersion" apiVersion)
    |>.append (isRecord_text "kind" kind)
    |>.append (isRecord_field "metadata" (hmetadata.isTidy (by decide)))
    |>.append (isRecord_field "spec" hspec)
    |>.append hstatus
  exact hall.isTidy (by decide)

/-! ## Actors after a run -/

/-- Steps that bring no spec but accepted ones keep the name and an accepted spec. -/
theorem named_accepted_run [Machine]
    {a : Actor} {steps : List Step} (hnamed : a.name ≠ []) (haccepted : a.spec.IsAccepted)
    (hspecs : ∀ spec, Step.respec spec ∈ steps → spec.IsAccepted) :
    (a.run steps).name ≠ [] ∧ (a.run steps).spec.IsAccepted := by
  induction steps generalizing a with
  | nil => exact ⟨hnamed, haccepted⟩
  | cons step steps ih =>
      have hstep : (a.apply step).name ≠ [] ∧ (a.apply step).spec.IsAccepted := by
        cases step with
        | set c | change operation | regenerate generation => exact ⟨hnamed, haccepted⟩
        | respec spec => exact ⟨hnamed, hspecs spec List.mem_cons_self⟩
      exact ih hstep.1 hstep.2 fun spec hspec => hspecs spec (List.mem_cons_of_mem step hspec)

/-- What an actor is written to is a full document, so the actor is read from it as such. -/
theorem ofEntries_of_readFull [Machine]
    {entries : DocumentEntries} {a : Actor} (hread : (readFull entries).2 = .ok a) :
    Actor.ofEntries entries none = .ok a := by
  have hspec : (lookup? "spec" entries).isSome = true := by
    obtain ⟨frame, -, hframe, -, -⟩ := readFull_eq_ok_iff.mp hread
    unfold readFrame at hframe
    simp only [bind_eq_ok_iff] at hframe
    obtain ⟨-, -, -, -, hframe⟩ := hframe
    split at hframe
    · cases hframe
    · rename_i d hd
      rw [hd]
      rfl
  have hwithin : a.within none = a := by
    rcases a with ⟨name, spec, _ | space, generation, status⟩ <;> rfl
  rw [Actor.ofEntries, readEntries, hspec, Bool.true_or, if_pos rfl, hread, Except.map, hwithin]

end Actor

/-! ## The text of an actor -/

namespace Manifest

open Document

theorem isBlank_newline : IsBlank (Text.ofString "\n") :=
  List.forall_mem_singleton.mpr rfl

/-- A tidy object with plain texts is read back from its lines. -/
theorem read_textOf_json [Machine]
    {fields : List (Text × Json)} (htidy : IsTidy Machine.valueLevels (.object fields))
    (hplain : (Json.object fields).HasPlainText) :
    Manifest.read .json (textOf .json fields) = .ok (ofJsonFields fields) := by
  have hspells := spells_indented htidy hplain 0
  have hread : Json.read (textOf .json fields) = .ok (.object fields) :=
    read_of_spells hspells isBlank_newline
  simp only [Manifest.read, document, hread, Except.mapError, Except.map, bind, Except.bind,
    entries?_ofJson_object, pure, Except.pure]

/-- An actor that was read from a manifest and then changed is written as a text in JSON, unless
a generation has too many digits.  The text is read as the fields of the actor, in their order,
and from these the actor is read with its times rounded down to the second. -/
theorem readNamed_writeNamed_json [Machine]
    {entries : DocumentEntries} {space : Option Text} {start a : Actor}
    {steps : List Actor.Step}
    (hread : Actor.ofEntries entries space = .ok start) (hrun : start.run steps = a)
    (hspecs : ∀ spec, .respec spec ∈ steps → spec.IsAccepted)
    (hdated : a.status.IsDated) (hshort : a.IsShort)
    (hplain : ∀ fields ∈ a.fields?, (Json.object fields).HasPlainText) :
    ∃ fields text, a.fields? = some fields ∧ writeNamed "json" a = .ok text ∧
      readNamed "json" text = .ok (ofJsonFields fields) ∧
      Manifest.actor (ofJsonFields fields) none = .ok a.roundedDown ∧
      ∀ c ∈ a.status.conditions,
        c.roundedDown.since.instant = c.since.instant / 1000000 * 1000000 := by
  obtain ⟨hnamed, haccepted⟩ : a.name ≠ [] ∧ a.spec.IsAccepted := by
    obtain ⟨hnamed, haccepted⟩ := Actor.named_accepted_of_ofEntries hread
    exact hrun ▸ Actor.named_accepted_run hnamed haccepted hspecs
  obtain ⟨fields, hfields, hfull⟩ :=
    Actor.exists_readFull_fields ⟨hnamed, haccepted, hdated⟩
  have hdistinct := Spec.isAccepted_iff_hasDistinctNames.mp haccepted
  -- An actor nests at most six containers, well within the depth that the reader allows.
  have htidy : IsTidy (0 + 6) (.object fields) :=
    Actor.isTidy_of_fields? hdistinct hshort hfields
  have hlevels : 6 ≤ Machine.valueLevels := Nat.le_trans (by decide) Machine.le_valueLevels
  have hintegers : (Json.object fields).allIntegers isWritable = true :=
    allIntegers_of_isTidy htidy
  refine ⟨fields, textOf .json fields, hfields, ?_, ?_, ?_, ?_⟩
  · change write .json a = _
    simp only [write, Manifest.fields, hfields, Option.elim, bind, Except.bind, hintegers,
      if_pos, pure, Except.pure]
  · exact read_textOf_json (htidy.mono hlevels) (hplain fields hfields)
  · rw [Manifest.actor, Actor.ofEntries_of_readFull hfull, Except.mapError]
  · exact fun c hc => Timestamp.instant_roundedDown (hdated c hc)

/-- An actor with a condition whose texts need escapes and whose time has an offset and a part
of a second. -/
theorem readNamed_writeNamed_json_escaped :
    let entries : DocumentEntries := [
      (.text "kind", .text "Actor"),
      (.text "spec", .mapping [
        (.text "name", .text "web"), (.text "repository", .text "r"),
        (.text "commit", .text "c"),
        (.text "environments", .mapping [(.text "GREETING", .text "\"é😀\"\n")])])]
    let failed := Condition.write .failed true "Crash" "\\\t\x7f"
      ⟨⟨2024, 5, 2, by decide⟩, ⟨10, 0, 0, 500000, by decide⟩, some ⟨7200000000, by decide⟩⟩
    let steps : List Actor.Step :=
      [.regenerate (some (-3)), .set failed, .change (.erase .running)]
    ∃ a fields text, (Actor.ofEntries entries none).map (fun start => start.run steps) = .ok a ∧
      a.fields? = some fields ∧ writeNamed "json" a = .ok text ∧
      readNamed "json" text = .ok (ofJsonFields fields) ∧
      Manifest.actor (ofJsonFields fields) none = .ok a.roundedDown := by
  intro entries failed steps
  obtain ⟨start, hread, hdated, hshort, hplain⟩ :
      ∃ start, Actor.ofEntries entries none = .ok start ∧
        (start.run steps).status.IsDated ∧ (start.run steps).IsShort ∧
        ∀ fields ∈ (start.run steps).fields?, (Json.object fields).HasPlainText :=
    ⟨_, rfl, by decide +kernel, ⟨by decide +kernel, by decide +kernel⟩, by decide +kernel⟩
  have hspecs : ∀ spec, Actor.Step.respec spec ∈ steps → spec.IsAccepted := by
    simp [steps]
  obtain ⟨fields, text, hfields, hwrite, hread', hactor, -⟩ :=
    readNamed_writeNamed_json hread rfl hspecs hdated hshort hplain
  exact ⟨_, fields, text, by rw [hread]; rfl, hfields, hwrite, hread', hactor⟩

/-- An actor whose generation has too many digits has no text. -/
theorem write_of_long_generation
    {format : Format} {a : Actor} {fields : List (Text × Json)} {n : Int}
    (hfields : a.fields? = some fields) (hgeneration : a.generation = some n)
    (hlong : isWritable n = false) : write format a = .error (.broken .longNumber) := by
  have hintegers : (Json.object fields).allIntegers isWritable = false := by
    obtain ⟨status, -, rfl⟩ := Option.map_eq_some_iff.mp hfields
    simp [allIntegers, allIntegersOfFields_eq_all, field, field?, hgeneration, hlong]
  simp only [write, Manifest.fields, hfields, Option.elim, bind, Except.bind, hintegers,
    Bool.false_eq_true, if_false]
  rfl

/-- An actor is read whose generation has one digit too many, and it has no text. -/
theorem writeNamed_json_of_long_generation :
    let entries : DocumentEntries := [
      (.text "kind", .text "Actor"),
      (.text "metadata", .mapping [(.text "generation", .scalar (.int (10 ^ 4300)))]),
      (.text "spec", .mapping [
        (.text "name", .text "web"), (.text "repository", .text "r"),
        (.text "commit", .text "c")])]
    ∃ a, Actor.ofEntries entries none = .ok a ∧ a.status.IsDated ∧
      (∀ fields ∈ a.fields?, (Json.object fields).HasPlainText) ∧
      writeNamed "json" a = .error (.broken .longNumber) := by
  intro entries
  have hlong : isWritable (10 ^ 4300) = false := by
    unfold isWritable
    -- The width is made a variable, so that its power is not computed.
    generalize 4300 = width
    rw [Int.natAbs_pow]
    exact decide_eq_false (Nat.lt_irrefl _)
  let spec : Spec := {
    name := "web", repository := "r", commit := "c", description := [], image := [],
    command := none, path := none, reference := none, environments := none, partners := none,
    services := none, sync := none, build := none, identified := by decide }
  refine ⟨⟨"web", spec, none, some (10 ^ 4300), .empty⟩, rfl, Ledger.isDated_empty, ?_, ?_⟩
  · decide +kernel
  · exact write_of_long_generation rfl rfl hlong

end Manifest

end ActorManifest
