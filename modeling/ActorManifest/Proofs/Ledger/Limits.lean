import ActorManifest.Proofs.Ledger.Reload
import ActorManifest.Proofs.Time.Limits

/-!
# Which conditions are read back

Every condition that is read has a time, but not every time is read back from the wire form.
What becomes of a condition depends on its instant alone.
-/

namespace ActorManifest
namespace Condition

open Timestamp

variable {c : Condition}

theorem toJson?_eq_none
    (houtside : c.since.instant < 0 ∨ yearStart 10000 ≤ c.since.instant) : c.toJson? = none := by
  rw [toJson?, wire?, toUtc?_eq_none_iff.mpr houtside]
  rfl

/-- What is written of an early time is refused when it is read. -/
theorem exists_toJson_refused [Machine]
    (hearly : 0 ≤ c.since.instant ∧ c.since.instant < yearStart 1000) :
    ∃ j t, c.toJson? = some j ∧
      Condition.ofDocument (.ofJson j) = .error (.badTime (.form t)) := by
  have hcovered : ¬(c.since.instant < 0 ∨ yearStart 10000 ≤ c.since.instant) := by
    have hstarts : yearStart 1000 ≤ yearStart 10000 := by decide
    omega
  obtain ⟨u, hu⟩ := Option.ne_none_iff_exists'.mp (mt toUtc?_eq_none_iff.mp hcovered)
  have hyear : u.date.year < 1000 := by
    rw [← Nat.not_le, le_year_iff hu]
    omega
  obtain ⟨w, hw, hread⟩ := exists_wire_not_read hu hyear
  obtain ⟨j, hj, hcondition⟩ := exists_toJson_read hw
  rw [hread] at hcondition
  exact ⟨j, _, hj, hcondition⟩

/-- A condition is read back with its time rounded down to the second if and only if its instant
lies in the years of four digits.  Before them it is written in a form that is refused, and
outside of the calendar it has no wire form. -/
theorem read_toJson_iff [Machine] (c : Condition) :
    ((∃ j, c.toJson? = some j ∧ Condition.ofDocument (.ofJson j) = .ok c.roundedDown ∧
          c.roundedDown.since.instant = c.since.instant / 1000000 * 1000000) ↔
        yearStart 1000 ≤ c.since.instant ∧ c.since.instant < yearStart 10000) ∧
      (0 ≤ c.since.instant ∧ c.since.instant < yearStart 1000 → ∃ j t, c.toJson? = some j ∧
        Condition.ofDocument (.ofJson j) = .error (.badTime (.form t))) ∧
      (c.since.instant < 0 ∨ yearStart 10000 ≤ c.since.instant → c.toJson? = none) := by
  refine ⟨⟨?_, ?_⟩, exists_toJson_refused, toJson?_eq_none⟩
  · rintro ⟨j, hj, hread, -⟩
    by_contra hyears
    by_cases hearly : 0 ≤ c.since.instant ∧ c.since.instant < yearStart 1000
    · obtain ⟨k, t, hk, hrefused⟩ := exists_toJson_refused hearly
      rw [hj] at hk
      cases hk
      rw [hread] at hrefused
      cases hrefused
    · rw [toJson?_eq_none (by omega)] at hj
      cases hj
  · intro hyears
    have hdated := hasFourDigitYear_iff.mpr hyears
    obtain ⟨j, hj, hread⟩ := exists_ofDocument_toJson hdated
    exact ⟨j, hj, hread, instant_roundedDown hdated⟩

/-- The last day of the year 999 is accepted and written, and what is written is refused.  The
first hour of the calendar is accepted east of universal time, and it has no wire form. -/
theorem toJson_of_early_times :
    let since : Text → Document := fun t => .mapping [
      (.text "type", .text "Pending"), (.text "status", .text "True"),
      (.text "lastTransitionTime", .text t)]
    (∃ c j t, Condition.ofDocument (since "0999-12-31T00:00:00Z") = .ok c ∧
        c.toJson? = some j ∧
        Condition.ofDocument (.ofJson j) = .error (.badTime (.form t))) ∧
      ∃ c, Condition.ofDocument (since "0001-01-01T00:00:00+01:00") = .ok c ∧
        c.toJson? = none := by
  intro since
  let early : Condition := ⟨.pending, true, [], [],
    ⟨⟨999, 12, 31, by decide⟩, .midnight, some .utc⟩, none⟩
  let eastern : Condition := ⟨.pending, true, [], [],
    ⟨⟨1, 1, 1, by decide⟩, .midnight, some ⟨3600000000, by decide⟩⟩, none⟩
  have hearly : 0 ≤ early.since.instant ∧ early.since.instant < yearStart 1000 := by
    decide +kernel
  have heastern : eastern.since.instant < 0 := by decide +kernel
  obtain ⟨j, t, hj, hrefused⟩ := exists_toJson_refused hearly
  exact ⟨⟨early, j, t, by decide +kernel, hj, hrefused⟩, eastern, by decide +kernel,
    toJson?_eq_none (.inl heastern)⟩

end Condition
end ActorManifest
