import ActorManifest.Status.Ledger

/-!
# What the operations of a ledger do

Each operation is described by what can be asked afterwards: the condition about a phase,
and the phases in their order.  A write answers for its own phase and leaves the others
alone; it keeps the place of a phase that is listed and puts a new one at the end.  No
other module looks into how a list of conditions is searched or changed.
-/

namespace ActorManifest
namespace Ledger

/-! ## Lists of conditions -/

/-- The phases of a ledger in their order. -/
def phases (l : Ledger) : List Phase :=
  l.conditions.map Condition.phase

/-- A ledger is its list of conditions. -/
theorem ext {a b : Ledger} (hconditions : a.conditions = b.conditions) : a = b := by
  rcases a with ⟨conditions, hnodup⟩
  cases hconditions
  rfl

theorem nodup_phases (l : Ledger) : l.phases.Nodup :=
  l.onePerPhase

theorem find?_place (c : Condition) (phase : Phase) (conditions : List Condition) :
    find? phase (place c conditions) =
      if c.phase = phase then some c else find? phase conditions := by
  induction conditions with
  | nil =>
      by_cases hphase : c.phase = phase <;> simp [place, find?, hphase]
  | cons d rest ih =>
      simp only [find?] at ih ⊢
      by_cases hplace : d.phase = c.phase
      · by_cases hphase : c.phase = phase <;> simp [place, hplace, hphase]
      · by_cases hphase : c.phase = phase
        · subst hphase
          simpa [place, hplace, List.find?_cons] using ih
        · simp only [place, hplace, if_false, List.find?_cons, ih, hphase]

theorem find?_filter_phase_ne (erased phase : Phase) (conditions : List Condition) :
    find? phase (conditions.filter fun c => c.phase != erased) =
      if erased = phase then none else find? phase conditions := by
  simp only [find?, List.find?_filter]
  by_cases hphase : erased = phase
  · rw [if_pos hphase, List.find?_eq_none]
    intro c _ hc
    simp [hphase] at hc
  · rw [if_neg hphase]
    congr 1
    funext c
    by_cases hc : c.phase = phase
    · have hne : phase ≠ erased := Ne.symm hphase
      simp [hc, hne]
    · simp [hc]

/-- A write to a listed phase takes the place of the condition that is there. -/
theorem map_phase_place_of_mem
    {c : Condition} {conditions : List Condition}
    (hmem : c.phase ∈ conditions.map Condition.phase) :
    (place c conditions).map Condition.phase =
      conditions.map Condition.phase := by
  induction conditions with
  | nil => simp at hmem
  | cons d rest ih =>
      by_cases hphase : d.phase = c.phase
      · simp [place, hphase]
      · rw [List.map_cons, List.mem_cons] at hmem
        have hrest := hmem.resolve_left (Ne.symm hphase)
        simp [place, hphase, ih hrest]

/-- A write to a phase that is not listed adds its condition at the end. -/
theorem place_of_not_mem
    {c : Condition} {conditions : List Condition}
    (hmem : c.phase ∉ conditions.map Condition.phase) :
    place c conditions = conditions ++ [c] := by
  induction conditions with
  | nil => rfl
  | cons d rest ih =>
      rw [List.map_cons, List.mem_cons, not_or] at hmem
      have hphase : ¬d.phase = c.phase := Ne.symm hmem.1
      simp [place, hphase, ih hmem.2]

/-! ## The condition about a phase -/

/-- The condition about a phase is the listed one that is about it. -/
theorem get?_eq_some_iff (l : Ledger) (phase : Phase) (c : Condition) :
    l.get? phase = some c ↔ c ∈ l.conditions ∧ c.phase = phase := by
  rcases l with ⟨conditions, hnodup⟩
  simp only [get?]
  induction conditions with
  | nil => simp [find?]
  | cons d rest ih =>
      rw [List.map_cons, List.nodup_cons] at hnodup
      simp only [find?] at ih ⊢
      by_cases hd : d.phase = phase
      · simp only [List.find?_cons, hd, beq_self_eq_true, Option.some.injEq, List.mem_cons]
        constructor
        · rintro rfl
          exact ⟨Or.inl rfl, hd⟩
        · rintro ⟨rfl | hrest, hc⟩
          · rfl
          · have hmem := List.mem_map_of_mem (f := Condition.phase) hrest
            exact absurd (hd ▸ hc ▸ hmem) hnodup.1
      · have hne : (d.phase == phase) = false := beq_eq_false_iff_ne.mpr hd
        simp only [List.find?_cons, hne, ih hnodup.2, List.mem_cons]
        constructor
        · rintro ⟨hrest, hc⟩
          exact ⟨Or.inr hrest, hc⟩
        · rintro ⟨rfl | hrest, hc⟩
          · exact absurd hc hd
          · exact ⟨hrest, hc⟩

theorem get?_eq_none_iff (l : Ledger) (phase : Phase) :
    l.get? phase = none ↔ phase ∉ l.phases := by
  rw [phases, List.mem_map]
  constructor
  · rintro hnone ⟨c, hc, hphase⟩
    have hsome := (l.get?_eq_some_iff phase c).mpr ⟨hc, hphase⟩
    simp [hnone] at hsome
  · intro hmem
    cases hget : l.get? phase with
    | none => rfl
    | some c => exact absurd ⟨c, (l.get?_eq_some_iff phase c).mp hget⟩ hmem

/-! ## Writes and removals -/

@[simp] theorem stored_phase (l : Ledger) (c : Condition) :
    (l.stored c).phase = c.phase := by
  unfold stored
  split
  · split <;> rfl
  · rfl

theorem stored_of_get?_eq_none {l : Ledger} {c : Condition}
    (hget : l.get? c.phase = none) : l.stored c = c := by
  simp [stored, hget]

/-- A write of the same status keeps the time. -/
theorem stored_of_asserted_eq {l : Ledger} {c old : Condition}
    (hget : l.get? c.phase = some old) (hsame : old.asserted = c.asserted) :
    l.stored c = { c with since := old.since } := by
  simp [stored, hget, hsame]

/-- A write of the other status brings its own time. -/
theorem stored_of_asserted_ne {l : Ledger} {c old : Condition}
    (hget : l.get? c.phase = some old) (hother : old.asserted ≠ c.asserted) :
    l.stored c = c := by
  simp [stored, hget, hother]

/-- A write decides its own phase and no other. -/
theorem get?_set (l : Ledger) (c : Condition) (phase : Phase) :
    (l.set c).get? phase = if c.phase = phase then some (l.stored c) else l.get? phase := by
  have hplace := find?_place (l.stored c) phase l.conditions
  rw [stored_phase] at hplace
  exact hplace

/-- A removal decides its own phase and no other. -/
theorem get?_erase (l : Ledger) (erased phase : Phase) :
    (l.erase erased).get? phase = if erased = phase then none else l.get? phase :=
  find?_filter_phase_ne erased phase l.conditions

/-- A write to a phase that is not listed adds what it brings at the end. -/
theorem conditions_set_of_not_mem
    {l : Ledger} {c : Condition} (hmem : c.phase ∉ l.phases) :
    (l.set c).conditions = l.conditions ++ [c] := by
  have hplace : (l.set c).conditions = l.conditions ++ [l.stored c] :=
    place_of_not_mem (by rwa [stored_phase])
  rwa [stored_of_get?_eq_none ((l.get?_eq_none_iff c.phase).mpr hmem)] at hplace

/-- A write moves no phase; one that was not listed comes last. -/
theorem phases_set (l : Ledger) (c : Condition) :
    (l.set c).phases = if c.phase ∈ l.phases then l.phases else l.phases ++ [c.phase] := by
  by_cases hmem : c.phase ∈ l.phases
  · rw [if_pos hmem]
    exact map_phase_place_of_mem (by rwa [stored_phase])
  · rw [if_neg hmem]
    simp [phases, conditions_set_of_not_mem hmem]

theorem phases_erase (l : Ledger) (erased : Phase) :
    (l.erase erased).phases = l.phases.filter fun phase => phase != erased := by
  simp [phases, erase, List.filter_map, Function.comp_def]

/-- Writing conditions about phases that are all new lists them in their order. -/
theorem conditions_setAll
    {l : Ledger} {conditions : List Condition}
    (hnodup : ((l.conditions ++ conditions).map Condition.phase).Nodup) :
    (l.setAll conditions).conditions = l.conditions ++ conditions := by
  induction conditions generalizing l with
  | nil => simp [setAll]
  | cons c rest ih =>
      have hnew : c.phase ∉ l.phases := by
        intro hmem
        rw [List.map_append, List.nodup_append] at hnodup
        exact hnodup.2.2 c.phase hmem c.phase (by simp) rfl
      have hset := conditions_set_of_not_mem hnew
      have hrest := ih (l := l.set c) (by simpa [hset] using hnodup)
      simpa [setAll, hset] using hrest

theorem conditions_ofList
    {conditions : List Condition}
    (hnodup : (conditions.map Condition.phase).Nodup) :
    (ofList conditions).conditions = conditions :=
  conditions_setAll (l := empty) hnodup

/-- A ledger is made again from its own conditions. -/
theorem ofList_conditions (l : Ledger) : ofList l.conditions = l :=
  ext (conditions_ofList l.onePerPhase)

/-- As many conditions are listed as there are phases with a condition. -/
theorem length_conditions (l : Ledger) :
    l.conditions.length = (Phase.ranking.filter fun phase => (l.get? phase).isSome).length := by
  have hranking : Phase.ranking.Nodup := by decide
  have hperm : l.phases.Perm
      (Phase.ranking.filter fun phase => (l.get? phase).isSome) := by
    refine (List.perm_ext_iff_of_nodup l.nodup_phases (hranking.filter _)).mpr ?_
    intro phase
    have hmem : phase ∈ Phase.ranking := by cases phase <;> decide
    have hlisted := l.get?_eq_none_iff phase
    rw [List.mem_filter]
    cases hget : l.get? phase <;> simp_all
  simpa [phases] using hperm.length_eq

end Ledger
end ActorManifest
