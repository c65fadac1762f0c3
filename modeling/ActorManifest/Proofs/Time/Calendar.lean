import ActorManifest.Time.Timestamp
import Mathlib.Algebra.Ring.Nat

/-!
# Days and dates

The date of a day number has that many days before it.  The year is found by whole cycles
of four hundred, hundred, four and one years, so the proof first counts the days before a
year that is written in these cycles.  The month is found by taking away the days of one
month after another, and the proof follows that recursion.
-/

namespace ActorManifest
namespace Calendar

/-! ## Years -/

/-- How many days a year has. -/
def daysInYear (year : Nat) : Nat :=
  if isLeapYear year then 366 else 365

theorem daysBeforeYear_cycles
    {cycles centuries quads years : Nat}
    (hcenturies : centuries ≤ 3) (hquads : quads ≤ 24) (hyears : years ≤ 3) :
    daysBeforeYear (400 * cycles + 100 * centuries + 4 * quads + years + 1) =
      146097 * cycles + 36524 * centuries + 1461 * quads + 365 * years := by
  have hfour : (400 * cycles + 100 * centuries + 4 * quads + years) / 4 =
      100 * cycles + 25 * centuries + quads := by omega
  have hhundred : (400 * cycles + 100 * centuries + 4 * quads + years) / 100 =
      4 * cycles + centuries := by omega
  have hall : (400 * cycles + 100 * centuries + 4 * quads + years) / 400 = cycles := by omega
  simp only [daysBeforeYear, Nat.add_sub_cancel, hfour, hhundred, hall]
  omega

/-- The last year of four is a leap year unless a century ends with it that is not the
last of four. -/
theorem isLeapYear_cycles
    {cycles centuries quads years : Nat}
    (hcenturies : centuries ≤ 3) (hquads : quads ≤ 24) (hyears : years ≤ 3) :
    isLeapYear (400 * cycles + 100 * centuries + 4 * quads + years + 1) = true ↔
      years = 3 ∧ (quads = 24 → centuries = 3) := by
  simp only [isLeapYear, Bool.and_eq_true, Bool.or_eq_true, beq_iff_eq, bne_iff_ne]
  omega

theorem yearOfDay_spec (n : Nat) :
    1 ≤ (yearOfDay n).1 ∧ daysBeforeYear (yearOfDay n).1 + (yearOfDay n).2 = n ∧
      (yearOfDay n).2 < daysInYear (yearOfDay n).1 := by
  simp only [yearOfDay]
  generalize hcycles : n / 146097 = cycles
  generalize hfirst : n % 146097 = first
  generalize hcenturies : min 3 (first / 36524) = centuries
  generalize hsecond : first - centuries * 36524 = second
  generalize hquads : second / 1461 = quads
  generalize hthird : second % 1461 = third
  generalize hyears : min 3 (third / 365) = years
  have hn : n = 146097 * cycles + first ∧ first < 146097 := by omega
  have hcenturies' : centuries ≤ 3 := by omega
  have hsecond' : first = 36524 * centuries + second ∧
      (second < 36524 ∨ centuries = 3 ∧ second = 36524) := by omega
  have hquads' : quads ≤ 24 ∧ second = 1461 * quads + third ∧ third < 1461 := by omega
  have hyears' : years ≤ 3 ∧ 365 * years ≤ third ∧
      (third - years * 365 < 365 ∨ years = 3 ∧ third = 1460) := by omega
  have hbefore := @daysBeforeYear_cycles cycles _ _ _ hcenturies' hquads'.1 hyears'.1
  have hleap := @isLeapYear_cycles cycles _ _ _ hcenturies' hquads'.1 hyears'.1
  refine ⟨by omega, by omega, ?_⟩
  rw [daysInYear]
  split
  · omega
  · rename_i hno
    rw [hleap] at hno
    omega

/-! ## Months -/

/-- How many days some months of a year have together. -/
def daysInMonths (year first count : Nat) : Nat :=
  ((List.range' first count).map (daysInMonth year)).sum

theorem daysBeforeMonth_eq (year month : Nat) :
    daysBeforeMonth year month = daysInMonths year 1 (month - 1) := by
  rw [daysBeforeMonth, daysInMonths, List.sum_eq_foldl]

theorem daysInMonths_succ (year first count : Nat) :
    daysInMonths year first (count + 1) =
      daysInMonth year first + daysInMonths year (first + 1) count := by
  simp [daysInMonths, List.range'_succ]

theorem daysInMonths_twelve (year : Nat) : daysInMonths year 1 12 = daysInYear year := by
  by_cases hleap : isLeapYear year = true
  · simp [daysInMonths, daysInMonth, daysInYear, hleap, List.range'_succ]
  · simp [daysInMonths, daysInMonth, daysInYear, hleap, List.range'_succ]

/-- A day within some months lies in one of them, behind the days of those before it. -/
theorem monthOfDay_spec
    {year first count n : Nat} (hn : n < daysInMonths year first count) :
    ∃ past day, monthOfDay year (List.range' first count) n = (first + past, day) ∧
      past < count ∧ 1 ≤ day ∧ day ≤ daysInMonth year (first + past) ∧
      daysInMonths year first past + (day - 1) = n := by
  induction count generalizing first n with
  | zero => simp [daysInMonths] at hn
  | succ count ih =>
      rw [daysInMonths_succ] at hn
      rw [List.range'_succ, monthOfDay]
      by_cases hfirst : n < daysInMonth year first
      · rw [if_pos hfirst]
        exact ⟨0, n + 1, rfl, by omega, by omega, hfirst, by simp [daysInMonths]⟩
      · rw [if_neg hfirst]
        have hlater : n - daysInMonth year first < daysInMonths year (first + 1) count := by
          omega
        obtain ⟨past, day, hmonth, hpast, hday, hlast, hdays⟩ := ih hlater
        have hplace : first + 1 + past = first + (past + 1) := by omega
        rw [hplace] at hmonth hlast
        refine ⟨past + 1, day, hmonth, by omega, hday, hlast, ?_⟩
        rw [daysInMonths_succ]
        omega

/-! ## Dates -/

/-- The three numbers of a day are those of a date, the end of the calendar apart, and the
days before that date are counted by the number of the day. -/
theorem civil_spec (n : Nat) :
    ∃ year month day, civil n = (year, month, day) ∧ 1 ≤ year ∧ (1 ≤ month ∧ month ≤ 12) ∧
      (1 ≤ day ∧ day ≤ daysInMonth year month) ∧
      daysBeforeYear year + daysBeforeMonth year month + (day - 1) = n := by
  obtain ⟨hyear, hdays, hrest⟩ := yearOfDay_spec n
  rw [← daysInMonths_twelve] at hrest
  obtain ⟨past, day, hmonth, hpast, hday, hlast, hbefore⟩ := monthOfDay_spec hrest
  refine ⟨(yearOfDay n).1, 1 + past, day, by simp only [civil, hmonth], hyear,
    by omega, ⟨hday, hlast⟩, ?_⟩
  rw [daysBeforeMonth_eq, Nat.add_sub_cancel_left]
  omega

end Calendar

/-- A date that was found by a day number has that many days before it. -/
theorem Date.dayNumber_of_ofDayNumber?
    {n : Nat} {d : Date} (hdate : Date.ofDayNumber? n = some d) : d.dayNumber = n := by
  obtain ⟨year, month, day, hcivil, -, -, -, hdays⟩ := Calendar.civil_spec n
  rw [Date.ofDayNumber?, hcivil] at hdate
  by_cases hvalid : IsDate year month day
  · simp only [Date.ofParts, dif_pos hvalid, Except.toOption, Option.some.injEq] at hdate
    rw [← hdate]
    exact hdays
  · simp only [Date.ofParts, dif_neg hvalid] at hdate
    split at hdate
    · cases hdate
    · split at hdate <;> cases hdate

end ActorManifest
