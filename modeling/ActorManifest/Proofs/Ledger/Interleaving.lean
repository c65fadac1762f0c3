import ActorManifest.Proofs.Ledger.Reached
import Mathlib.Data.List.Nodup

/-!
# Phases do not interfere

What an operation does to the condition about its phase depends on that condition alone, and it
does nothing to the others.  So after a history the condition about a phase is what the
operations about that phase, in their order, make of the one at the start.  Two histories that
agree on each phase and differ in how the phases take turns lead to ledgers that answer alike
and list the same conditions, though perhaps in another order.
-/

namespace ActorManifest

/-! ## Ranks -/

/-- The rank of a phase: among phases that are asserted at once, the highest one counts. -/
def Phase.rank : Phase → Nat
  | .failed => 3
  | .running => 2
  | .building => 1
  | .pending => 0

theorem Phase.mem_ranking (phase : Phase) : phase ∈ ranking := by
  cases phase <;> decide

theorem Phase.pairwise_ranking : ranking.Pairwise fun higher lower => lower.rank < higher.rank := by
  decide

namespace Ledger

/-- The phase of a ledger is the asserted phase of the highest rank. -/
theorem phase?_eq_some_iff {l : Ledger} {phase : Phase} :
    l.phase? = some phase ↔
      l.isAsserted phase = true ∧
        ∀ other, phase.rank < other.rank → l.isAsserted other = false := by
  rw [phase?, List.find?_eq_some_iff_append]
  refine and_congr_right fun _ => ?_
  constructor
  · rintro ⟨before, after, hranking, hbefore⟩ other hrank
    have hsorted := hranking ▸ Phase.pairwise_ranking
    rw [List.pairwise_append, List.pairwise_cons] at hsorted
    have hother := hranking ▸ other.mem_ranking
    rcases List.mem_append.mp hother with hmem | hmem
    · simpa using hbefore other hmem
    · rcases List.mem_cons.mp hmem with rfl | hmem
      · exact absurd hrank (Nat.lt_irrefl _)
      · exact absurd hrank (Nat.lt_asymm (hsorted.2.1.1 other hmem))
  · intro hhigher
    obtain ⟨before, after, hranking⟩ := List.append_of_mem phase.mem_ranking
    refine ⟨before, after, hranking, ?_⟩
    intro other hmem
    have hsorted := hranking ▸ Phase.pairwise_ranking
    rw [List.pairwise_append] at hsorted
    simpa using hhigher other (hsorted.2.2 other hmem phase List.mem_cons_self)

theorem phase?_eq_none_iff {l : Ledger} :
    l.phase? = none ↔ ∀ phase, l.isAsserted phase = false := by
  rw [phase?, List.find?_eq_none]
  constructor
  · intro hnone phase
    simpa using hnone phase phase.mem_ranking
  · intro hnone phase _
    simp [hnone phase]

/-! ## The part of a history that is about a phase -/

/-- What an operation makes of the condition about its phase: a write of the same status keeps
the time. -/
def Operation.next : Operation → Option Condition → Option Condition
  | .set c, none => some c
  | .set c, some old =>
    some (if old.asserted = c.asserted then { c with since := old.since } else c)
  | .erase _, _ => none

theorem get?_apply (l : Ledger) (operation : Operation) (phase : Phase) :
    (l.apply operation).get? phase =
      if operation.phase = phase then operation.next (l.get? phase) else l.get? phase := by
  cases operation with
  | set c =>
      refine (get?_set l c phase).trans ?_
      by_cases hphase : c.phase = phase
      · subst hphase
        rw [if_pos rfl, Operation.phase, if_pos rfl, stored]
        cases l.get? c.phase <;> rfl
      · rw [if_neg hphase, Operation.phase, if_neg hphase]
  | erase erased => exact get?_erase l erased phase

/-- The condition about a phase after a history comes from the operations about that phase. -/
theorem get?_run (l : Ledger) (history : List Operation) (phase : Phase) :
    (l.run history).get? phase =
      (history.filter fun operation => operation.phase = phase).foldl
        (fun answer operation => operation.next answer) (l.get? phase) := by
  -- The first operation is done before the rest, which starts at the ledger that it leaves.
  induction history generalizing l with
  | nil => rfl
  | cons operation rest ih =>
      have hrun : l.run (operation :: rest) = (l.apply operation).run rest := rfl
      rw [hrun, ih, get?_apply]
      by_cases hphase : operation.phase = phase
      · rw [if_pos hphase, List.filter_cons_of_pos (by simpa using hphase), List.foldl_cons]
      · rw [if_neg hphase, List.filter_cons_of_neg (by simpa using hphase)]

/-! ## Ledgers that answer alike -/

section Alike

variable {l m : Ledger} (halike : ∀ phase, l.get? phase = m.get? phase)

include halike

theorem isAsserted_of_get?_eq (phase : Phase) : l.isAsserted phase = m.isAsserted phase := by
  rw [isAsserted, isAsserted, halike]

theorem phase?_of_get?_eq : l.phase? = m.phase? := by
  have hasserted : l.isAsserted = m.isAsserted := funext (isAsserted_of_get?_eq halike)
  rw [phase?, phase?, hasserted]

/-- Ledgers that answer alike list the same conditions, each of them once. -/
theorem perm_conditions_of_get?_eq : l.conditions.Perm m.conditions := by
  have hfirst : l.conditions.Nodup := .of_map Condition.phase l.onePerPhase
  have hsecond : m.conditions.Nodup := .of_map Condition.phase m.onePerPhase
  refine (List.perm_ext_iff_of_nodup hfirst hsecond).mpr ?_
  intro c
  have hl := l.get?_eq_some_iff c.phase c
  have hm := m.get?_eq_some_iff c.phase c
  rw [halike c.phase, hm] at hl
  simpa using hl.symm

end Alike

/-! ## Histories -/

/-- The last operation about the phase asserts it. -/
def AssertsLast (phase : Phase) (history : List Operation) : Prop :=
  ∃ c, IsLastWrite phase history c ∧ c.asserted = true

theorem reached_run [Machine] (history : List Operation) : Reached (empty.run history) history := by
  induction history using List.reverseRecOn with
  | nil => exact .ofList []
  | append_singleton history operation ih =>
      have hrun : empty.run (history ++ [operation]) = (empty.run history).apply operation := by
        simp [run]
      rw [hrun]
      exact .apply operation ih

theorem isAsserted_iff_of_reached [Machine]
    {l : Ledger} {history : List Operation} (hreached : Reached l history) (phase : Phase) :
    l.isAsserted phase = true ↔ AssertsLast phase history := by
  have haccounts := accounts_of_reached hreached phase
  rw [isAsserted]
  cases hget : l.get? phase with
  | none =>
      rw [hget] at haccounts
      constructor
      · simp
      · rintro ⟨c, hlast, -⟩
        exact absurd haccounts (not_isCleared_of_isLastWrite hlast)
  | some c =>
      rw [hget] at haccounts
      obtain ⟨first, last, -, hlast, -, rfl⟩ := haccounts
      constructor
      · intro hasserted
        exact ⟨last, hlast, hasserted⟩
      · rintro ⟨d, hd, hasserted⟩
        rwa [isLastWrite_unique hd hlast] at hasserted

/-- The phase that a history leads to is the highest of those that it asserts last. -/
theorem phase?_run_eq_some_iff [Machine] {history : List Operation} {phase : Phase} :
    (empty.run history).phase? = some phase ↔
      AssertsLast phase history ∧
        ∀ other, phase.rank < other.rank → ¬AssertsLast other history := by
  have hasserted := isAsserted_iff_of_reached (reached_run history)
  simp only [phase?_eq_some_iff, ← hasserted, Bool.not_eq_true]

theorem phase?_run_eq_none_iff [Machine] {history : List Operation} :
    (empty.run history).phase? = none ↔ ∀ phase, ¬AssertsLast phase history := by
  have hasserted := isAsserted_iff_of_reached (reached_run history)
  simp only [phase?_eq_none_iff, ← hasserted, Bool.not_eq_true]

/-- Two histories with the same operations about each phase, in the same order for that phase
but interleaved in any way, lead from the empty ledger to ledgers that answer alike about every
phase, have the same phase and list the same conditions up to order.  The phase is the highest
one whose last operation asserts it, and there is none if no last operation does. -/
theorem answers_of_interleaved [Machine]
    {first second : List Operation}
    (hsame : ∀ phase, (first.filter fun operation => operation.phase = phase) =
      second.filter fun operation => operation.phase = phase) :
    (∀ phase, (empty.run first).get? phase = (empty.run second).get? phase) ∧
      (∀ phase, (empty.run first).isAsserted phase = (empty.run second).isAsserted phase) ∧
      (empty.run first).conditions.length = (empty.run second).conditions.length ∧
      (empty.run first).phase? = (empty.run second).phase? ∧
      (empty.run first).conditions.Perm (empty.run second).conditions ∧
      (∀ phase, (empty.run first).phase? = some phase ↔
        AssertsLast phase first ∧
          ∀ other, phase.rank < other.rank → ¬AssertsLast other first) ∧
      ((empty.run first).phase? = none ↔ ∀ phase, ¬AssertsLast phase first) := by
  have halike : ∀ phase, (empty.run first).get? phase = (empty.run second).get? phase := by
    intro phase
    rw [get?_run, get?_run, hsame]
  have hperm := perm_conditions_of_get?_eq halike
  exact ⟨halike, isAsserted_of_get?_eq halike, hperm.length_eq, phase?_of_get?_eq halike,
    hperm, fun _ => phase?_run_eq_some_iff, phase?_run_eq_none_iff⟩

/-- A failure that is retracted before the actor runs or after it. -/
theorem answers_of_interleaved_failure_retracted :
    let failed :=
      Condition.write .failed true "Crash" [] ⟨⟨2024, 1, 1, by decide⟩, .midnight, none⟩
    let mended :=
      Condition.write .failed false "Mended" [] ⟨⟨2024, 1, 2, by decide⟩, .midnight, none⟩
    let running :=
      Condition.write .running true "Up" [] ⟨⟨2024, 1, 3, by decide⟩, .midnight, none⟩
    let first := [Operation.set failed, .set mended, .erase .running, .set running]
    let second := [Operation.erase .running, .set running, .set failed, .set mended]
    (∀ phase, (first.filter fun operation => operation.phase = phase) =
      second.filter fun operation => operation.phase = phase) ∧
      (empty.run first).phase? = (empty.run second).phase? ∧
      (empty.run first).conditions.Perm (empty.run second).conditions ∧
      (empty.run first).conditions ≠ (empty.run second).conditions := by
  intro failed mended running first second
  have hsame : ∀ phase, (first.filter fun operation => operation.phase = phase) =
      second.filter fun operation => operation.phase = phase := by
    intro phase
    cases phase <;> rfl
  have hanswers := answers_of_interleaved hsame
  exact ⟨hsame, hanswers.2.2.2.1, hanswers.2.2.2.2.1, by decide⟩

end Ledger
end ActorManifest
