import ActorManifest.Proofs.Actor.Agreement
import ActorManifest.Proofs.Ledger.History

/-!
# The generations that conditions observe

An actor stamps a condition with its generation when the condition is written.  The stamp
belongs to the last write of a phase: a later write brings its own, and nothing else touches
it.  So if the generation never goes back, no condition is ahead of its actor.
-/

namespace ActorManifest

theorem Ledger.stored_generation (l : Ledger) (c : Condition) :
    (l.stored c).generation = c.generation := by
  unfold stored
  split
  · split <;> rfl
  · rfl

namespace Actor

/-! ## Steps and phases -/

/-- The phase whose condition a step writes or removes. -/
def Step.phase? : Step → Option Phase
  | .set c => some c.phase
  | .change operation => some operation.phase
  | .regenerate _ | .respec _ => none

/-- The condition that a step hands to the ledger of an actor. -/
def Step.written? (a : Actor) : Step → Option Condition
  | .set c => some (a.stamped c)
  | .change (.set c) => some c
  | .change (.erase _) | .regenerate _ | .respec _ => none

variable {a : Actor} {phase : Phase}

theorem get?_apply_of_phase?_ne {step : Step} (hphase : step.phase? ≠ some phase) :
    (a.apply step).status.get? phase = a.status.get? phase := by
  have hne : ∀ other : Phase, step.phase? = some other → other ≠ phase := by
    rintro other hother rfl
    exact hphase hother
  cases step with
  | set c => exact (Ledger.get?_set _ _ _).trans (if_neg (hne c.phase rfl))
  | change operation =>
      cases operation with
      | set c => exact (Ledger.get?_set _ _ _).trans (if_neg (hne c.phase rfl))
      | erase erased => exact (Ledger.get?_erase _ _ _).trans (if_neg (hne erased rfl))
  | regenerate generation => rfl
  | respec spec => rfl

/-- Steps about other phases leave the condition of a phase alone. -/
theorem get?_run_of_phase?_ne
    {steps : List Step} (hsteps : ∀ step ∈ steps, step.phase? ≠ some phase) :
    (a.run steps).status.get? phase = a.status.get? phase := by
  induction steps generalizing a with
  | nil => rfl
  | cons step steps ih =>
      rw [List.forall_mem_cons] at hsteps
      exact (ih hsteps.2).trans (get?_apply_of_phase?_ne hsteps.1)

theorem get?_apply_of_written?
    {step : Step} {w : Condition} (hwritten : step.written? a = some w) :
    (a.apply step).status.get? w.phase = some (a.status.stored w) := by
  have hset : ∀ c, (a.status.set c).get? c.phase = some (a.status.stored c) := by
    intro c
    rw [Ledger.get?_set, if_pos rfl]
  cases step with
  | set c =>
      cases hwritten
      exact hset _
  | change operation =>
      cases operation with
      | set c =>
          cases hwritten
          exact hset _
      | erase erased => cases hwritten
  | regenerate generation => cases hwritten
  | respec spec => cases hwritten

theorem phase?_of_written?
    {step : Step} {w : Condition} (hwritten : step.written? a = some w) :
    step.phase? = some w.phase := by
  cases step with
  | set c =>
      cases hwritten
      rfl
  | change operation =>
      cases operation with
      | set c =>
          cases hwritten
          rfl
      | erase erased => cases hwritten
  | regenerate generation => cases hwritten
  | respec spec => cases hwritten

/-- A step that is about a phase and writes nothing removes its condition. -/
theorem get?_apply_of_written?_eq_none
    {step : Step} (hphase : step.phase? = some phase) (hwritten : step.written? a = none) :
    (a.apply step).status.get? phase = none := by
  cases step with
  | set c => cases hwritten
  | change operation =>
      cases operation with
      | set c => cases hwritten
      | erase erased =>
          cases hphase
          exact (Ledger.get?_erase _ _ _).trans (if_pos rfl)
  | regenerate generation => cases hphase
  | respec spec => cases hphase

/-! ## The stamp of the last write -/

/-- The last step about the phase hands a condition with this generation to the ledger. -/
def LastStamp (start : Actor) (steps : List Step) (phase : Phase) (generation : Option Int) :
    Prop :=
  ∃ before step after w, steps = before ++ step :: after ∧
    step.written? (start.run before) = some w ∧ w.phase = phase ∧ w.generation = generation ∧
    ∀ later ∈ after, later.phase? ≠ some phase

theorem lastStamp_append_of_phase?_ne
    {start : Actor} {steps : List Step} {step : Step} {generation : Option Int}
    (hlast : LastStamp start steps phase generation) (hphase : step.phase? ≠ some phase) :
    LastStamp start (steps ++ [step]) phase generation := by
  obtain ⟨before, write, after, w, rfl, hwritten, hw, hgeneration, hafter⟩ := hlast
  refine ⟨before, write, after ++ [step], w, by simp, hwritten, hw, hgeneration, ?_⟩
  intro later hlater
  rw [List.mem_append, List.mem_singleton] at hlater
  rcases hlater with hlater | rfl
  · exact hafter later hlater
  · exact hphase

theorem lastStamp_append_of_written?
    {start : Actor} {steps : List Step} {step : Step} {w : Condition}
    (hwritten : step.written? (start.run steps) = some w) :
    LastStamp start (steps ++ [step]) w.phase w.generation :=
  ⟨steps, step, [], w, rfl, hwritten, rfl, rfl, List.forall_mem_nil _⟩

/-- A condition carries the generation of the last write to its phase. -/
theorem lastStamp_of_get?_run
    {start : Actor} {steps : List Step} {c : Condition} (hempty : start.status = .empty)
    (hget : (start.run steps).status.get? phase = some c) :
    LastStamp start steps phase c.generation := by
  induction steps using List.reverseRecOn generalizing c with
  | nil =>
      rw [run, List.foldl_nil, hempty] at hget
      cases hget
  | append_singleton steps step ih =>
      rw [run_append] at hget
      change ((start.run steps).apply step).status.get? phase = some c at hget
      by_cases hphase : step.phase? = some phase
      · cases hwritten : step.written? (start.run steps) with
        | none =>
            rw [get?_apply_of_written?_eq_none hphase hwritten] at hget
            cases hget
        | some w =>
            have hw : w.phase = phase :=
              Option.some.inj ((phase?_of_written? hwritten).symm.trans hphase)
            have hstored := get?_apply_of_written? hwritten
            rw [hw, hget] at hstored
            have hgeneration : c.generation = w.generation := by
              rw [Option.some.inj hstored, Ledger.stored_generation]
            rw [← hw, hgeneration]
            exact lastStamp_append_of_written? hwritten
      · rw [get?_apply_of_phase?_ne hphase] at hget
        exact lastStamp_append_of_phase?_ne (ih hget) hphase

/-! ## Generations that never go back -/

/-- The step neither lowers the generation of an actor nor takes it away, and a condition that
it writes has no generation of its own. -/
def Step.IsForward (a : Actor) : Step → Prop
  | .set c => c.generation = none
  | .change (.set _) => False
  | .change (.erase _) => True
  | .regenerate generation => ∀ n ∈ a.generation, ∃ m ∈ generation, n ≤ m
  | .respec _ => True

/-- Every step is forward for the actor that it changes. -/
def IsForwardRun : Actor → List Step → Prop
  | _, [] => True
  | a, step :: steps => step.IsForward a ∧ IsForwardRun (a.apply step) steps

theorem isForwardRun_append {steps more : List Step} :
    IsForwardRun a (steps ++ more) ↔ IsForwardRun a steps ∧ IsForwardRun (a.run steps) more := by
  induction steps generalizing a with
  | nil => simp [IsForwardRun, run]
  | cons step steps ih =>
      rw [List.cons_append, IsForwardRun, ih, IsForwardRun, and_assoc]
      rfl

theorem generation_le_apply
    {step : Step} (hforward : step.IsForward a) {n : Int} (hn : n ∈ a.generation) :
    ∃ m ∈ (a.apply step).generation, n ≤ m := by
  cases step with
  | regenerate generation => exact hforward n hn
  | set c => exact ⟨n, hn, Int.le_refl n⟩
  | change operation => exact ⟨n, hn, Int.le_refl n⟩
  | respec spec => exact ⟨n, hn, Int.le_refl n⟩

theorem generation_le_run
    {steps : List Step} (hrun : IsForwardRun a steps) {n : Int} (hn : n ∈ a.generation) :
    ∃ m ∈ (a.run steps).generation, n ≤ m := by
  induction steps generalizing a n with
  | nil => exact ⟨n, hn, Int.le_refl n⟩
  | cons step steps ih =>
      obtain ⟨m, hm, hle⟩ := generation_le_apply hrun.1 hn
      obtain ⟨k, hk, hle'⟩ := ih hrun.2 hm
      exact ⟨k, hk, Int.le_trans hle hle'⟩

/-- In a forward run the last write of a phase is stamped with the generation of that moment. -/
theorem exists_set_of_lastStamp
    {start : Actor} {steps : List Step} {generation : Option Int}
    (hrun : IsForwardRun start steps) (hlast : LastStamp start steps phase generation) :
    ∃ before w after, steps = before ++ .set w :: after ∧ w.phase = phase ∧
      (∀ step ∈ after, step.phase? ≠ some phase) ∧
      generation = (start.run before).generation := by
  obtain ⟨before, step, after, w, rfl, hwritten, hw, rfl, hafter⟩ := hlast
  have hforward : step.IsForward (start.run before) := (isForwardRun_append.mp hrun).2.1
  cases step with
  | set c =>
      cases hwritten
      have hnone : c.generation = none := hforward
      refine ⟨before, c, after, rfl, hw, hafter, ?_⟩
      change (c.generation <|> (start.run before).generation) = _
      rw [hnone]
      rfl
  | change operation =>
      cases operation with
      | set c => exact hforward.elim
      | erase erased => cases hwritten
  | regenerate generation => cases hwritten
  | respec spec => cases hwritten

/-- An actor starts without conditions, its generation never goes back, and no condition is
written with a generation of its own.  Then each of its conditions has the generation that the
actor had at the last write of that phase, which is none if there was none then, and is never
ahead of the actor; setting the generation changes no condition.  Whatever the generation of an
actor is, a condition written with one of its own keeps it until its phase is written or
removed again. -/
theorem generation_of_isForwardRun
    {start : Actor} {steps : List Step} (hempty : start.status = .empty)
    (hrun : IsForwardRun start steps) :
    (∀ c ∈ (start.run steps).status.conditions,
      (∃ before w after, steps = before ++ .set w :: after ∧ w.phase = c.phase ∧
        (∀ step ∈ after, step.phase? ≠ some c.phase) ∧
        c.generation = (start.run before).generation) ∧
      ∀ n ∈ c.generation, ∃ m ∈ (start.run steps).generation, n ≤ m) ∧
    (∀ generation, ((start.run steps).apply (.regenerate generation)).status.conditions =
      (start.run steps).status.conditions) ∧
    ∀ (a : Actor) (c : Condition) (n : Int) (later : List Step), c.generation = some n →
      (∀ step ∈ later, step.phase? ≠ some c.phase) →
      ∃ d, ((a.set c).run later).status.get? c.phase = some d ∧ d.generation = some n := by
  refine ⟨?_, fun generation => rfl, ?_⟩
  · intro c hc
    have hget := ((start.run steps).status.get?_eq_some_iff c.phase c).mpr ⟨hc, rfl⟩
    obtain ⟨before, w, after, rfl, hw, hafter, hgeneration⟩ :=
      exists_set_of_lastStamp hrun (lastStamp_of_get?_run hempty hget)
    refine ⟨⟨before, w, after, rfl, hw, hafter, hgeneration⟩, ?_⟩
    intro n hn
    rw [hgeneration] at hn
    rw [run_append]
    exact generation_le_run (isForwardRun_append.mp hrun).2 hn
  · intro a c n later hown hlater
    refine ⟨a.status.stored (a.stamped c), ?_, ?_⟩
    · rw [get?_run_of_phase?_ne hlater]
      exact @get?_apply_of_written? a (.set c) (a.stamped c) rfl
    · rw [Ledger.stored_generation]
      change (c.generation <|> a.generation) = some n
      rw [hown]
      rfl

/-- An assertion that is repeated after the generation was raised observes the raised one, and
one that is not repeated does not. -/
theorem generation_of_isForwardRun_raised :
    let spec : Spec := {
      name := "web", repository := "r", commit := "c", description := [], image := [],
      command := none, path := none, reference := none, environments := none, partners := none,
      services := none, sync := none, build := none, identified := by decide }
    let pending := Condition.created ⟨⟨2024, 1, 1, by decide⟩, .midnight, none⟩
    let up := Condition.write .running true "Up" [] ⟨⟨2024, 1, 2, by decide⟩, .midnight, none⟩
    let steps : List Step :=
      [.set pending, .set up, .regenerate (some 1), .set up, .regenerate (some 2)]
    let a := (ofSpec spec).run steps
    a.status.conditions.map Condition.generation = [none, some 1] ∧
      ∀ c ∈ a.status.conditions, ∀ n ∈ c.generation, ∃ m ∈ a.generation, n ≤ m := by
  intro spec pending up steps a
  have hrun : IsForwardRun (ofSpec spec) steps := by
    simp [IsForwardRun, Step.IsForward, steps, pending, up, Condition.created, Condition.write,
      Actor.apply, Actor.set, ofSpec]
  exact ⟨by decide +kernel, fun c hc => ((generation_of_isForwardRun rfl hrun).1 c hc).2⟩

end Actor
end ActorManifest
