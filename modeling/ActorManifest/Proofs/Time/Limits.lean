import ActorManifest.Proofs.Json.Numeral
import ActorManifest.Proofs.Time.Wire
import Mathlib.Order.Monotone.Basic

/-!
# The times that the wire form can hold

The wire form of a time holds its instant in universal time, to the second, and the year without
zeros in front.  The calendar ends with the year 9999, so instants outside of it have no wire
form.  Instants of the first 999 years have one, but its year is too short to be read.
-/

namespace ActorManifest
namespace Calendar

/-! ## Days of years -/

/-- How many days a year has, by the cycles that end with it. -/
theorem daysInYear_eq (year : Nat) :
    daysInYear year = 365 + (if year % 4 = 0 then 1 else 0) + (if year % 400 = 0 then 1 else 0) -
      (if year % 100 = 0 then 1 else 0) := by
  simp only [daysInYear, isLeapYear, Bool.and_eq_true, Bool.or_eq_true, beq_iff_eq, bne_iff_ne]
  by_cases hfour : year % 4 = 0
  · by_cases hhundred : year % 100 = 0
    · by_cases hcycle : year % 400 = 0 <;> simp [hfour, hhundred, hcycle]
    · have hcycle : year % 400 ≠ 0 := by omega
      simp [hfour, hhundred, hcycle]
  · have hhundred : year % 100 ≠ 0 := by omega
    have hcycle : year % 400 ≠ 0 := by omega
    simp [hfour, hhundred, hcycle]

theorem daysBeforeYear_succ (past : Nat) :
    daysBeforeYear (past + 1 + 1) = daysBeforeYear (past + 1) + daysInYear (past + 1) := by
  have hfour : (past + 1) / 4 = past / 4 + if (past + 1) % 4 = 0 then 1 else 0 := by
    split <;> omega
  have hhundred : (past + 1) / 100 = past / 100 + if (past + 1) % 100 = 0 then 1 else 0 := by
    split <;> omega
  have hcycle : (past + 1) / 400 = past / 400 + if (past + 1) % 400 = 0 then 1 else 0 := by
    split <;> omega
  have hcenturies : past / 100 ≤ past / 4 := by omega
  have hleap : (past + 1) % 100 = 0 → (past + 1) % 4 = 0 := by omega
  simp only [daysBeforeYear, Nat.add_sub_cancel, hfour, hhundred, hcycle, daysInYear_eq]
  generalize past / 4 = quads at *
  generalize past / 100 = centuries at *
  split <;> split <;> split <;> omega

theorem daysBeforeYear_mono : Monotone daysBeforeYear := by
  refine monotone_nat_of_le_succ fun year => ?_
  cases year with
  | zero => exact Nat.le_refl 0
  | succ past =>
      rw [daysBeforeYear_succ]
      exact Nat.le_add_right _ _

/-- A day comes in a year or later if all days before the year come before it. -/
theorem le_yearOfDay_iff {n year : Nat} :
    year ≤ (yearOfDay n).1 ↔ daysBeforeYear year ≤ n := by
  obtain ⟨hfirst, hdays, hrest⟩ := yearOfDay_spec n
  constructor
  · intro hle
    have hbefore := daysBeforeYear_mono hle
    omega
  · intro hle
    by_contra hlt
    obtain ⟨past, hpast⟩ := Nat.exists_eq_succ_of_ne_zero (Nat.one_le_iff_ne_zero.mp hfirst)
    have hbefore := daysBeforeYear_mono (Nat.not_le.mp hlt)
    rw [hpast, Nat.succ_eq_add_one, daysBeforeYear_succ] at hbefore
    rw [hpast, Nat.succ_eq_add_one] at hdays hrest
    omega

end Calendar

theorem Date.ofDayNumber?_eq (n : Nat) :
    (Date.ofDayNumber? n = none ∧ Calendar.daysBeforeYear 10000 ≤ n) ∨
      ∃ d, Date.ofDayNumber? n = some d ∧ d.year = (Calendar.yearOfDay n).1 := by
  obtain ⟨year, month, day, hcivil, hyear, hmonth, hday, -⟩ := Calendar.civil_spec n
  have hyear' : (Calendar.yearOfDay n).1 = year := congrArg Prod.fst hcivil
  rw [Date.ofDayNumber?, hcivil]
  by_cases hlast : year ≤ 9999
  · have hvalid : IsDate year month day := ⟨⟨hyear, hlast⟩, hmonth, hday⟩
    refine .inr ⟨⟨year, month, day, hvalid⟩, ?_, hyear'.symm⟩
    simp only [Date.ofParts, dif_pos hvalid, Except.toOption]
  · have hvalid : ¬IsDate year month day := fun hvalid => hlast hvalid.1.2
    refine .inl ⟨?_, Calendar.le_yearOfDay_iff.mp (by omega)⟩
    simp only [Date.ofParts, dif_neg hvalid, if_pos (Or.inr (Nat.not_le.mp hlast)),
      Except.toOption]

namespace Timestamp

/-! ## Instants of years -/

/-- The instant at which a year begins. -/
def yearStart (year : Nat) : Int :=
  Calendar.daysBeforeYear year * dayMicros

theorem yearStart_le_iff {year : Nat} {i : Int} (hi : 0 ≤ i) :
    yearStart year ≤ i ↔ Calendar.daysBeforeYear year ≤ i.toNat / dayMicros := by
  rw [Nat.le_div_iff_mul_le (by decide), yearStart]
  omega

theorem toUtc?_eq_none_iff {t : Timestamp} :
    t.toUtc? = none ↔ t.instant < 0 ∨ yearStart 10000 ≤ t.instant := by
  unfold toUtc? ofInstant?
  by_cases hnegative : t.instant < 0
  · simp [hnegative]
  · rw [if_neg hnegative, Option.map_eq_none_iff, yearStart_le_iff (by omega)]
    rcases Date.ofDayNumber?_eq (t.instant.toNat / dayMicros) with ⟨hnone, hlast⟩ | ⟨d, hd, hyear⟩
    · simp [hnone, hlast]
    · have hlast := d.isDate.1.2
      have hbefore : ¬Calendar.daysBeforeYear 10000 ≤ t.instant.toNat / dayMicros := by
        rw [← Calendar.le_yearOfDay_iff, ← hyear]
        omega
      simp [hd, hnegative, hbefore]

theorem le_year_iff {t u : Timestamp} {year : Nat} (hu : t.toUtc? = some u) :
    year ≤ u.date.year ↔ yearStart year ≤ t.instant := by
  obtain ⟨hi, hdate, -, -⟩ := ofInstant?_eq_some hu
  rw [yearStart_le_iff hi, ← Calendar.le_yearOfDay_iff]
  rcases Date.ofDayNumber?_eq (t.instant.toNat / dayMicros) with ⟨hnone, -⟩ | ⟨d, hd, hyear⟩
  · rw [hnone] at hdate
    cases hdate
  · rw [hd] at hdate
    cases hdate
    rw [hyear]

/-- The years of four digits are those between the thousandth and the end of the calendar. -/
theorem hasFourDigitYear_iff {t : Timestamp} :
    t.HasFourDigitYear ↔ yearStart 1000 ≤ t.instant ∧ t.instant < yearStart 10000 := by
  constructor
  · rintro ⟨u, hu, hyear⟩
    have hcovered : t.toUtc? ≠ none := by simp [hu]
    rw [Ne, toUtc?_eq_none_iff] at hcovered
    exact ⟨(le_year_iff hu).mp hyear, by omega⟩
  · rintro ⟨hfirst, hlast⟩
    have hpositive : 0 ≤ yearStart 1000 := by decide
    cases hu : t.toUtc? with
    | none =>
        rw [toUtc?_eq_none_iff] at hu
        omega
    | some u => exact ⟨u, hu, (le_year_iff hu).mpr hfirst⟩

end Timestamp

/-! ## Years of fewer digits -/

namespace Iso

/-- A mark among the first four code points is no digit of a year. -/
theorem readDate?_of_mem_take
    {c : CodePoint} {t : Text} (hc : c ∈ t.take 4) (hdigit : c.isAsciiDigit = false) (length : Nat) :
    readDate? (t.take length) = none := by
  have hnumber : number? 4 ((t.take length).take 4) = none := by
    unfold number?
    rw [List.take_take]
    split
    · rename_i hfound
      simp only [Bool.and_eq_true, decide_eq_true_eq, List.length_take, List.all_eq_true] at hfound
      obtain ⟨hlength, hdigits⟩ := hfound
      have hmin : min 4 length = 4 := by omega
      rw [hmin] at hdigits
      rw [hdigits c hc] at hdigit
      cases hdigit
    · rfl
  rw [readDate?, hnumber, Option.bind_none]

theorem readParts?_of_mem_take
    {c : CodePoint} {t : Text} (hc : c ∈ t.take 4) (hdigit : c.isAsciiDigit = false) :
    readParts? t = none := by
  unfold readParts?
  split
  · rfl
  · simp [readDate?_of_mem_take hc hdigit]

end Iso

namespace Timestamp

/-- A time whose year has fewer digits is written, and what is written is not read. -/
theorem exists_wire_not_read
    {t u : Timestamp} (hu : t.toUtc? = some u) (hyear : u.date.year < 1000) :
    ∃ w, t.wire? = some w ∧ Timestamp.read w = .error (.form (Iso.expandMark w)) := by
  obtain ⟨more, hw⟩ : ∃ more, t.wire? =
      some (Text.ofNat u.date.year ++ .char '-' :: more ++ [.char 'Z']) := by
    let more := Text.concat
      [Text.ofNatPadded 2 u.date.month, "-", Text.ofNatPadded 2 u.date.day, "T",
       Text.ofNatPadded 2 u.clock.hour, ":", Text.ofNatPadded 2 u.clock.minute, ":",
       Text.ofNatPadded 2 u.clock.second]
    refine ⟨more, ?_⟩
    rw [wire?, hu, Option.map_some]
    simp [more, Text.concat, Text.ofString]
  refine ⟨_, hw, ?_⟩
  have hmark : .char '-' ∈ (Text.ofNat u.date.year ++ .char '-' :: more ++
      Text.ofString "+00:00").take 4 := by
    have hlength : (Text.ofNat u.date.year).length ≤ 3 := Text.length_ofNat_le (by decide) hyear
    obtain ⟨left, hleft⟩ : ∃ left, 4 - (Text.ofNat u.date.year).length = left + 1 :=
      ⟨3 - (Text.ofNat u.date.year).length, by omega⟩
    rw [List.append_assoc, List.take_append, hleft, List.cons_append, List.take_succ_cons]
    simp
  rw [Timestamp.read, expandMark_append, Iso.read, Iso.readParts?_of_mem_take hmark rfl]
  rfl

end Timestamp
end ActorManifest
