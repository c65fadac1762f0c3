import ActorManifest.Proofs.Json.Sorted
import ActorManifest.Proofs.Time.Limits

/-!
# The order of times on the wire

The parts of a time are written from the year down to the second, each in a fixed width, so
wire forms are ordered as the lists of these parts are.  Dates are ordered by their parts as
their day numbers are, and so the order of wire forms is that of the seconds they stand for.
-/

namespace ActorManifest

/-! ## The order of numbers of one width -/

namespace Text

theorem le_cons_self {c : CodePoint} {s t : Text} : le (c :: s) (c :: t) = true ↔ le s t = true := by
  rw [le_cons_iff]
  simp

theorem toNat_digit : ∀ n < 10, (digit n).toNat = 0x30 + n := by
  decide

/-- Numbers of one width are ordered by size, and equal ones by what comes behind. -/
theorem le_fixed_append
    {width a b : Nat} {s t : Text} (ha : a < 10 ^ width) (hb : b < 10 ^ width) :
    le (fixed width a ++ s) (fixed width b ++ t) = true ↔
      a < b ∨ a = b ∧ le s t = true := by
  induction width generalizing a b s t with
  | zero =>
      have ha' : a = 0 := by simpa using ha
      have hb' : b = 0 := by simpa using hb
      simp [ha', hb', fixed]
  | succ width ih =>
      rw [Nat.pow_succ] at ha hb
      have hfirst : a % 10 < 10 := Nat.mod_lt a (by decide)
      have hsecond : b % 10 < 10 := Nat.mod_lt b (by decide)
      have hdigit : digit (a % 10) = digit (b % 10) ↔ a % 10 = b % 10 := by
        constructor
        · intro heq
          have hnumber := congrArg CodePoint.toNat heq
          rw [toNat_digit _ hfirst, toNat_digit _ hsecond] at hnumber
          omega
        · exact congrArg digit
      rw [fixed, fixed, List.append_assoc, List.append_assoc, ih (by omega) (by omega),
        List.singleton_append, List.singleton_append, le_cons_iff, toNat_digit _ hfirst,
        toNat_digit _ hsecond, hdigit]
      constructor
      · rintro (hlt | ⟨heq, hlt | ⟨hlast, hle⟩⟩)
        · exact .inl (by omega)
        · exact .inl (by omega)
        · exact .inr ⟨by omega, hle⟩
      · rintro (hlt | ⟨rfl, hle⟩)
        · by_cases hmore : a / 10 < b / 10
          · exact .inl hmore
          · exact .inr ⟨by omega, .inl (by omega)⟩
        · exact .inr ⟨rfl, .inr ⟨rfl, hle⟩⟩

end Text

/-! ## The order of dates -/

namespace Calendar

theorem daysInMonths_add (year first count more : Nat) :
    daysInMonths year first (count + more) =
      daysInMonths year first count + daysInMonths year (first + count) more := by
  induction count generalizing first with
  | zero => simp [daysInMonths]
  | succ count ih =>
      rw [Nat.succ_add, daysInMonths_succ, daysInMonths_succ, ih, Nat.add_assoc first 1 count,
        Nat.add_comm 1 count, Nat.add_assoc]

/-- The months before a later month have all the days of the months up to this one. -/
theorem daysBeforeMonth_add_le
    {year month later : Nat} (hmonth : 1 ≤ month) (hlater : month < later) :
    daysBeforeMonth year month + daysInMonth year month ≤ daysBeforeMonth year later := by
  obtain ⟨more, rfl⟩ : ∃ more, later = month - 1 + (more + 1) + 1 :=
    ⟨later - month - 1, by omega⟩
  have hfirst : 1 + (month - 1) = month := by omega
  rw [daysBeforeMonth_eq, daysBeforeMonth_eq, Nat.add_sub_cancel, daysInMonths_add,
    daysInMonths_succ, hfirst]
  omega

end Calendar

namespace Date

open Calendar

/-- The date lies in its year. -/
theorem dayNumber_lt (d : Date) :
    d.dayNumber < daysBeforeYear d.year + daysInYear d.year := by
  obtain ⟨-, ⟨hfirst, hlast⟩, hday, hdays⟩ := d.isDate
  have hmonth : daysBeforeMonth d.year d.month + daysInMonth d.year d.month ≤
      daysBeforeMonth d.year 13 := daysBeforeMonth_add_le hfirst (by omega)
  have hyear : daysBeforeMonth d.year 13 = daysInYear d.year := by
    rw [daysBeforeMonth_eq, ← daysInMonths_twelve]
  rw [dayNumber]
  omega

/-- One date comes before another by its year, then by its month, then by its day. -/
def IsBefore (d e : Date) : Prop :=
  d.year < e.year ∨ d.year = e.year ∧
    (d.month < e.month ∨ d.month = e.month ∧ d.day < e.day)

theorem dayNumber_lt_of_isBefore {d e : Date} (hbefore : d.IsBefore e) :
    d.dayNumber < e.dayNumber := by
  obtain ⟨⟨hyear, -⟩, ⟨hmonth, -⟩, hday, hdays⟩ := d.isDate
  rcases hbefore with hlt | ⟨heq, hlt | ⟨heq', hlt⟩⟩
  · have hown := d.dayNumber_lt
    have hstart : daysBeforeYear e.year ≤ e.dayNumber := by
      rw [dayNumber]
      omega
    obtain ⟨past, hpast⟩ : ∃ past, d.year = past + 1 := ⟨d.year - 1, by omega⟩
    have hnext : daysBeforeYear (past + 1 + 1) ≤ daysBeforeYear e.year :=
      daysBeforeYear_mono (by omega)
    rw [daysBeforeYear_succ] at hnext
    rw [hpast] at hown
    omega
  · have hnext : daysBeforeMonth d.year d.month + daysInMonth d.year d.month ≤
        daysBeforeMonth d.year e.month := daysBeforeMonth_add_le hmonth hlt
    rw [dayNumber, dayNumber, ← heq]
    omega
  · rw [dayNumber, dayNumber, ← heq, ← heq']
    omega

theorem isBefore_or_eq_or_isBefore (d e : Date) : d.IsBefore e ∨ d = e ∨ e.IsBefore d := by
  unfold IsBefore
  by_cases hyear : d.year = e.year
  · by_cases hmonth : d.month = e.month
    · by_cases hday : d.day = e.day
      · right
        left
        cases d
        cases e
        simp_all
      · omega
    · omega
  · omega

end Date

/-! ## The order of wire forms -/

namespace Timestamp

open Text

/-- The parts of a timestamp from the year down to the second, in their widths. -/
def wireText (u : Timestamp) : Text :=
  fixed 4 u.date.year ++ .char '-' :: (fixed 2 u.date.month ++ .char '-' ::
    (fixed 2 u.date.day ++ .char 'T' :: (fixed 2 u.clock.hour ++ .char ':' ::
      (fixed 2 u.clock.minute ++ .char ':' :: (fixed 2 u.clock.second ++ [.char 'Z'])))))

theorem wire?_eq_wireText
    {t u : Timestamp} (hu : t.toUtc? = some u) (hyear : 1000 ≤ u.date.year) :
    t.wire? = some u.wireText := by
  obtain ⟨hlast, hmonth, hday⟩ := u.date.parts_lt
  obtain ⟨hhour, hminute, hsecond, -⟩ := u.clock.isClock
  rw [wire?, hu, Option.map_some, ofNat_eq_fixed hyear hlast,
    ofNatPadded_eq_fixed (by decide) hmonth, ofNatPadded_eq_fixed (by decide) hday,
    ofNatPadded_eq_fixed (by decide) (by omega), ofNatPadded_eq_fixed (by decide) (by omega),
    ofNatPadded_eq_fixed (by decide) (by omega)]
  simp [wireText, Text.concat, Text.ofString]

theorem second_of_toUtc? {t u : Timestamp} (hu : t.toUtc? = some u) :
    t.second = u.date.dayNumber * 86400 +
      (u.clock.hour * 3600 + u.clock.minute * 60 + u.clock.second : Nat) := by
  obtain ⟨-, -, -, hoffset⟩ := ofInstant?_eq_some hu
  have hinstant := instant_of_ofInstant? hu
  have hmicro := u.clock.isClock.2.2.2
  rw [second, ← hinstant]
  simp only [instant, localMicros, hoffset, Option.getD_some, Offset.utc, dayMicros,
    Clock.micros]
  omega

/-- Wire forms are ordered as the seconds they stand for. -/
theorem le_wireText_iff
    {t t' u u' : Timestamp} (hu : t.toUtc? = some u) (hu' : t'.toUtc? = some u') :
    Text.le u.wireText u'.wireText = true ↔ t.second ≤ t'.second := by
  obtain ⟨hyear, hmonth, hday⟩ := u.date.parts_lt
  obtain ⟨hyear', hmonth', hday'⟩ := u'.date.parts_lt
  obtain ⟨hhour, hminute, hsecond, -⟩ := u.clock.isClock
  obtain ⟨hhour', hminute', hsecond', -⟩ := u'.clock.isClock
  have hmark : Text.le [.char 'Z'] [.char 'Z'] = true := rfl
  rw [second_of_toUtc? hu, second_of_toUtc? hu', wireText, wireText,
    le_fixed_append hyear hyear', le_cons_self, le_fixed_append hmonth hmonth', le_cons_self,
    le_fixed_append hday hday', le_cons_self, le_fixed_append (by omega) (by omega), le_cons_self,
    le_fixed_append (by omega) (by omega), le_cons_self,
    le_fixed_append (by omega) (by omega), eq_true hmark, and_true]
  rcases u.date.isBefore_or_eq_or_isBefore u'.date with hbefore | heq | hafter
  · have hlt := Date.dayNumber_lt_of_isBefore hbefore
    rw [Date.IsBefore] at hbefore
    omega
  · rw [heq]
    omega
  · have hlt := Date.dayNumber_lt_of_isBefore hafter
    rw [Date.IsBefore] at hafter
    omega

/-- A time, naive or with an offset, whose instant lies in the years of four digits is written
as a text that is read back as the instant rounded down to the second.  A later time has no
smaller text, and two times have the same text if and only if they lie in one second. -/
theorem wire_faithful
    {v w : Timestamp} (hv : yearStart 1000 ≤ v.instant ∧ v.instant < yearStart 10000)
    (hw : yearStart 1000 ≤ w.instant ∧ w.instant < yearStart 10000) :
    ∃ s t, v.wire? = some s ∧ w.wire? = some t ∧
      (∃ r, Timestamp.read s = .ok r ∧ r.instant = v.instant / 1000000 * 1000000) ∧
      (v.instant ≤ w.instant → Text.le s t = true) ∧
      (s = t ↔ v.instant / 1000000 = w.instant / 1000000) := by
  rw [← hasFourDigitYear_iff] at hv hw
  obtain ⟨s, hs, hread⟩ := exists_wire_read hv
  have hinstant := instant_roundedDown hv
  obtain ⟨u, hu, hyear⟩ := hv
  obtain ⟨u', hu', hyear'⟩ := hw
  have hle := le_wireText_iff hu hu'
  have hge := le_wireText_iff hu' hu
  rw [second, second] at hle hge
  obtain rfl : u.wireText = s := Option.some.inj ((wire?_eq_wireText hu hyear).symm.trans hs)
  refine ⟨_, _, hs, wire?_eq_wireText hu' hyear', ⟨_, hread, hinstant⟩, ?_, ?_⟩
  · intro hlater
    exact hle.mpr (Int.ediv_le_ediv (by decide) hlater)
  · constructor
    · intro heq
      rw [heq] at hle hge
      have hself : Text.le u'.wireText u'.wireText = true := by
        simpa using Text.le_total u'.wireText u'.wireText
      exact Int.le_antisymm (hle.mp hself) (hge.mp hself)
    · intro heq
      exact Text.le_antisymm (hle.mpr heq.le) (hge.mpr heq.ge)

/-- The last microsecond of a leap day in universal time, written with an offset that puts it
into March, and the first moment of March. -/
theorem wire_faithful_leap_day :
    let v : Timestamp :=
      ⟨⟨2024, 3, 1, by decide⟩, ⟨5, 29, 59, 999999, by decide⟩, some ⟨19800000000, by decide⟩⟩
    let w : Timestamp := ⟨⟨2024, 3, 1, by decide⟩, .midnight, none⟩
    ∃ s t, v.wire? = some s ∧ w.wire? = some t ∧ Text.le s t = true ∧ s ≠ t := by
  intro v w
  obtain ⟨s, t, hs, ht, -, hle, heq⟩ :=
    wire_faithful (v := v) (w := w) (by decide +kernel) (by decide +kernel)
  refine ⟨s, t, hs, ht, hle (by decide +kernel), ?_⟩
  rw [Ne, heq]
  decide +kernel

end Timestamp
end ActorManifest
