import ActorManifest.Proofs.Fields
import ActorManifest.Proofs.Ledger.Agreement
import ActorManifest.Proofs.Ledger.Reached

/-!
# Ledgers are read back to the second

A ledger whose times have years of four digits is written, and what is written is read as a
ledger that agrees with it.  A condition comes down to its fields, of which only the time
changes.  The conditions of a ledger are written and read one by one; since no two of them
are about the same phase, writing them one after another keeps their places and times.
-/

namespace ActorManifest

open Document

/-! ## Conditions -/

theorem Phase.ofDocument_name [Machine] (phase : Phase) :
    Phase.ofDocument (.ofJson (.text phase.name)) = .ok phase := by
  cases phase <;> rfl

namespace Condition

theorem statusOf_statusText [Machine] (phase : Phase) (asserted : Bool) :
    statusOf phase (.ofJson (.text (statusText asserted))) = .ok asserted := by
  cases asserted <;> rfl

theorem present_of_lookup
    {field : String} {entries : DocumentEntries} {d : Document}
    (hentry : lookup? field entries = some d) : present field entries = .ok d := by
  rw [present, hentry]

theorem timeOf_text [Machine] (w : Text) :
    timeOf (.ofJson (.text w)) = (Timestamp.read w).mapError .badTime := rfl

/-- The condition with its time rounded down to the second. -/
def roundedDown (c : Condition) : Condition :=
  { c with since := c.since.roundedDown }

theorem roundedDown_agreesWith {c : Condition} (hdated : c.since.HasFourDigitYear) :
    c.roundedDown.AgreesWith c :=
  ⟨rfl, rfl, rfl, rfl, rfl, Timestamp.second_roundedDown hdated⟩

/-- A condition that is written is read back with the time that is read from its wire form. -/
theorem exists_toJson_read [Machine]
    {c : Condition} {w : Text} (hw : c.since.wire? = some w) :
    ∃ j, c.toJson? = some j ∧ Condition.ofDocument (.ofJson j) =
      ((Timestamp.read w).mapError Refusal.badTime).map fun since => { c with since } := by
  refine ⟨_, by rw [toJson?, hw, Option.map_some], ?_⟩
  rw [Condition.ofDocument, entriesOf_ofJson_object]
  generalize hentries : ofJsonFields _ = entries
  have hphase : present "type" entries = .ok (.ofJson (.text c.phase.name)) :=
    present_of_lookup (by simp [← hentries])
  have hstatus : present "status" entries =
      .ok (.ofJson (.text (statusText c.asserted))) :=
    present_of_lookup (by simp [← hentries])
  have htime : present "lastTransitionTime" entries = .ok (.ofJson (.text w)) :=
    present_of_lookup (by simp [← hentries])
  have hreason : Field.textOrEmpty .condition "reason" entries = .ok c.reason :=
    Field.textOrEmpty_of_lookup (by simp [← hentries])
  have hmessage : Field.textOrEmpty .condition "message" entries = .ok c.message :=
    Field.textOrEmpty_of_lookup (by simp [← hentries])
  have hgeneration : Field.integer? .condition "observedGeneration" entries =
      .ok c.generation :=
    Field.integer?_of_lookup (by simp [← hentries])
  cases hread : Timestamp.read w with
  | error fault =>
      simp only [bind, Except.bind, hphase, hstatus, htime, timeOf_text, hread, Except.mapError,
        Except.map]
  | ok since =>
      simp only [bind, Except.bind, pure, Except.pure, hphase, hstatus, htime, hreason, hmessage,
        hgeneration, timeOf_text, hread, Except.mapError, Except.map, Phase.ofDocument_name,
        statusOf_statusText]

/-- A condition is read back with its time rounded down. -/
theorem exists_ofDocument_toJson [Machine]
    {c : Condition} (hdated : c.since.HasFourDigitYear) :
    ∃ j, c.toJson? = some j ∧ Condition.ofDocument (.ofJson j) = .ok c.roundedDown := by
  obtain ⟨w, hw, hread⟩ := Timestamp.exists_wire_read hdated
  obtain ⟨j, hj, hcondition⟩ := exists_toJson_read hw
  rw [hread] at hcondition
  exact ⟨j, hj, hcondition⟩

end Condition

/-! ## Ledgers -/

namespace Ledger

/-- The times of all conditions have years of four digits in universal time. -/
def IsDated (l : Ledger) : Prop :=
  ∀ c ∈ l.conditions, c.since.HasFourDigitYear

instance (l : Ledger) : Decidable l.IsDated :=
  inferInstanceAs (Decidable (∀ c ∈ l.conditions, c.since.HasFourDigitYear))

theorem exists_read_conditions [Machine]
    {conditions : List Condition} (hdated : ∀ c ∈ conditions, c.since.HasFourDigitYear) :
    ∃ items, conditions.mapM Condition.toJson? = some items ∧
      (items.map Document.ofJson).mapM Condition.ofDocument =
        .ok (conditions.map Condition.roundedDown) := by
  induction conditions with
  | nil => exact ⟨[], rfl, rfl⟩
  | cons c rest ih =>
      obtain ⟨j, hj, hread⟩ := Condition.exists_ofDocument_toJson (hdated c List.mem_cons_self)
      obtain ⟨items, hitems, hrest⟩ := ih fun c hc => hdated c (List.mem_cons_of_mem _ hc)
      refine ⟨j :: items, ?_, ?_⟩
      · simp [List.mapM_cons, hj, hitems]
      · rw [List.map_cons, List.mapM_cons, hread, hrest]
        rfl

/-- The ledger with all times rounded down to the second. -/
def roundedDown (l : Ledger) : Ledger where
  conditions := l.conditions.map Condition.roundedDown
  onePerPhase := by
    rw [List.map_map]
    exact l.onePerPhase

/-- A ledger with its times rounded down agrees with the ledger and has times that can be
written, too. -/
theorem roundedDown_agreesWith {l : Ledger} (hdated : l.IsDated) :
    l.roundedDown.AgreesWith l ∧ l.roundedDown.IsDated := by
  constructor
  · rw [AgreesWith, roundedDown, List.forall₂_map_left_iff, List.forall₂_same]
    exact fun c hc => Condition.roundedDown_agreesWith (hdated c hc)
  · exact List.forall_mem_map.mpr fun c hc =>
      Timestamp.hasFourDigitYear_roundedDown (hdated c hc)

theorem toJson?_of_mapM
    {l : Ledger} {items : List Json} (hlisted : l.conditions ≠ [])
    (hitems : l.conditions.mapM Condition.toJson? = some items) :
    l.toJson? = some (.object (Json.field "conditions" (.array items))) := by
  unfold toJson?
  split
  · contradiction
  · rw [hitems]
    rfl

theorem conditionDocuments_ofJson (items : List Json) :
    conditionDocuments (.ofJson (.object (Json.field "conditions" (.array items)))) =
      .ok (items.map .ofJson) := by
  rw [Document.ofJson]
  generalize hentries : ofJsonFields _ = entries
  have hentry : lookup? "conditions" entries = some (.ofJson (.array items)) := by
    simp [← hentries]
  simp only [conditionDocuments, entries?, opened, hentry, items?_ofJson_array]

/-- A ledger with conditions is read back with its times rounded down, for it lists no two
conditions about one phase. -/
theorem exists_ofDocument_toJson [Machine]
    {l : Ledger} (hlisted : l.conditions ≠ []) (hdated : l.IsDated) :
    ∃ j, l.toJson? = some j ∧ Ledger.ofDocument (.ofJson j) = .ok l.roundedDown := by
  obtain ⟨items, hitems, hread⟩ := exists_read_conditions hdated
  refine ⟨_, toJson?_of_mapM hlisted hitems, ofDocument_eq_ok_iff.mpr
    ⟨_, _, conditionDocuments_ofJson items, hread, ?_⟩⟩
  exact (ofList_conditions l.roundedDown).symm

theorem ofDocument_null [Machine] : Ledger.ofDocument .null = .ok empty := rfl

/-! ## Times that a ledger holds -/

theorem isDated_empty : empty.IsDated := by
  simp [IsDated, empty]

theorem mem_place {c d : Condition} {conditions : List Condition}
    (hmem : d ∈ place c conditions) : d = c ∨ d ∈ conditions := by
  induction conditions with
  | nil => simpa [place] using hmem
  | cons a rest ih =>
      unfold place at hmem
      split at hmem
      · rcases List.mem_cons.mp hmem with hc | hrest
        · exact .inl hc
        · exact .inr (List.mem_cons_of_mem a hrest)
      · rcases List.mem_cons.mp hmem with ha | hrest
        · exact .inr (ha ▸ List.mem_cons_self)
        · exact (ih hrest).imp_right (List.mem_cons_of_mem a)

variable {l : Ledger}

/-- A write brings no time but its own, and may keep one that is there. -/
theorem isDated_set
    {c : Condition} (hdated : l.IsDated) (hc : c.since.HasFourDigitYear) :
    (l.set c).IsDated := by
  have hstored : (l.stored c).since.HasFourDigitYear := by
    unfold stored
    split
    · rename_i old hold
      split
      · exact hdated old ((l.get?_eq_some_iff _ _).mp hold).1
      · exact hc
    · exact hc
  intro d hd
  rcases mem_place hd with rfl | hd
  · exact hstored
  · exact hdated d hd

theorem isDated_erase (hdated : l.IsDated) (phase : Phase) : (l.erase phase).IsDated :=
  fun c hc => hdated c (List.mem_of_mem_filter hc)

/-- The time that an operation brings, if any, has a year of four digits. -/
def Operation.IsDated : Operation → Prop
  | .set c => c.since.HasFourDigitYear
  | .erase _ => True

theorem isDated_apply
    {operation : Operation} (hdated : l.IsDated) (hoperation : operation.IsDated) :
    (l.apply operation).IsDated := by
  cases operation with
  | set c => exact isDated_set hdated hoperation
  | erase phase => exact isDated_erase hdated phase

end Ledger
end ActorManifest
