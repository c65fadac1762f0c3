import ActorManifest.Proofs.Time.Calendar
import ActorManifest.Proofs.Time.Reading

/-!
# Times on the wire

The wire form of a time is read back as the start of the second of universal time in which
the time lies, provided that the year has four digits there.  Writing turns the instant
into a date and a time of day and drops the part of the second; the text is then that of a
timestamp in universal time with its mark abbreviated, which is read back as it is.
-/

namespace ActorManifest

/-- The time of day with the part of the second dropped. -/
def Clock.wholeSecond (c : Clock) : Clock where
  hour := c.hour
  minute := c.minute
  second := c.second
  micro := 0
  isClock := ⟨c.isClock.1, c.isClock.2.1, c.isClock.2.2.1, by decide⟩

theorem Clock.micros_ofMicros {n : Nat} (hn : n < dayMicros) : (Clock.ofMicros n).micros = n := by
  simp only [dayMicros] at hn
  simp only [Clock.micros, Clock.ofMicros]
  omega

theorem Clock.micros_wholeSecond (c : Clock) :
    c.wholeSecond.micros = c.micros / 1000000 * 1000000 := by
  have hmicro := c.isClock.2.2.2
  simp only [Clock.micros, Clock.wholeSecond]
  omega

theorem Clock.ofMicros_wholeSecond (n : Nat) :
    Clock.ofMicros (n / 1000000 * 1000000 % dayMicros) =
      (Clock.ofMicros (n % dayMicros)).wholeSecond := by
  simp only [Clock.ofMicros, Clock.wholeSecond, dayMicros, Clock.mk.injEq]
  omega

namespace Timestamp

/-- The number of whole seconds from the start of the calendar to a timestamp. -/
def second (t : Timestamp) : Int :=
  t.instant / 1000000

/-- The year of a timestamp in universal time has four digits. -/
def HasFourDigitYear (t : Timestamp) : Prop :=
  ∃ u, t.toUtc? = some u ∧ 1000 ≤ u.date.year

instance (t : Timestamp) : Decidable t.HasFourDigitYear :=
  decidable_of_iff (t.toUtc?.any fun u => 1000 ≤ u.date.year)
    (by simp [HasFourDigitYear, Option.any_eq_true])

/-- The timestamp at the start of its second. -/
def secondStart (t : Timestamp) : Timestamp :=
  { t with clock := t.clock.wholeSecond }

/-- The timestamp rounded down to the second of universal time, if the calendar covers it. -/
def roundedDown (t : Timestamp) : Timestamp :=
  (t.toUtc?.map secondStart).getD t

/-! ## Instants and universal time -/

/-- What is known of the timestamp at an instant. -/
theorem ofInstant?_eq_some
    {i : Int} {u : Timestamp} (hu : ofInstant? i = some u) :
    0 ≤ i ∧ Date.ofDayNumber? (i.toNat / dayMicros) = some u.date ∧
      u.clock = Clock.ofMicros (i.toNat % dayMicros) ∧ u.offset = some Offset.utc := by
  unfold ofInstant? at hu
  split at hu
  · cases hu
  · rename_i hnegative
    obtain ⟨date, hdate, rfl⟩ := Option.map_eq_some_iff.mp hu
    exact ⟨by omega, hdate, rfl, rfl⟩

theorem instant_of_ofInstant?
    {i : Int} {u : Timestamp} (hu : ofInstant? i = some u) : u.instant = i := by
  obtain ⟨hi, hdate, hclock, hoffset⟩ := ofInstant?_eq_some hu
  have hday := Date.dayNumber_of_ofDayNumber? hdate
  have hmicros : u.clock.micros = i.toNat % dayMicros := by
    rw [hclock, Clock.micros_ofMicros (Nat.mod_lt _ (by decide))]
  have hlocal : u.localMicros = i.toNat := by
    rw [localMicros, hday, hmicros]
    exact Nat.div_add_mod' i.toNat dayMicros
  simp only [instant, hlocal, hoffset, Option.getD_some, Offset.utc]
  omega

/-- The start of the second is as many whole seconds away, and no part of one. -/
theorem instant_secondStart
    {i : Int} {u : Timestamp} (hu : ofInstant? i = some u) :
    u.secondStart.instant = i / 1000000 * 1000000 := by
  obtain ⟨hi, hdate, hclock, hoffset⟩ := ofInstant?_eq_some hu
  have hinstant := instant_of_ofInstant? hu
  have hmicros := u.clock.micros_wholeSecond
  simp only [instant, localMicros, hoffset, Option.getD_some, Offset.utc, dayMicros,
    secondStart] at hinstant ⊢
  omega

theorem ofInstant?_secondStart
    {i : Int} {u : Timestamp} (hu : ofInstant? i = some u) :
    ofInstant? (i / 1000000 * 1000000) = some u.secondStart := by
  obtain ⟨hi, hdate, hclock, hoffset⟩ := ofInstant?_eq_some hu
  have hstart : (i / 1000000 * 1000000).toNat = i.toNat / 1000000 * 1000000 := by omega
  have hday : i.toNat / 1000000 * 1000000 / dayMicros = i.toNat / dayMicros := by
    simp only [dayMicros]
    omega
  rw [ofInstant?, if_neg (by omega), hstart, hday, hdate, Clock.ofMicros_wholeSecond,
    ← hclock, ← hoffset]
  rfl

theorem roundedDown_of_toUtc? {t u : Timestamp} (hu : t.toUtc? = some u) :
    t.roundedDown = u.secondStart := by
  rw [roundedDown, hu, Option.map_some, Option.getD_some]

/-! ## The wire form -/

theorem expandMark_append (body : Text) :
    Iso.expandMark (body ++ [.char 'Z']) = body ++ Text.ofString "+00:00" := by
  simp [Iso.expandMark]

/-- A time whose year has four digits is written as the text of the start of its second, with
the mark of universal time abbreviated. -/
theorem exists_wire
    {t u : Timestamp} (hu : t.toUtc? = some u) (hyear : 1000 ≤ u.date.year) :
    ∃ w, t.wire? = some w ∧ Iso.expandMark w = u.secondStart.textWith [.char 'T'] := by
  obtain ⟨-, -, -, hoffset⟩ := ofInstant?_eq_some hu
  have hdigits : Text.ofNat u.date.year = Text.ofNatPadded 4 u.date.year := by
    rw [Text.ofNatPadded_eq_fixed (by decide) u.date.parts_lt.1,
      Text.ofNat_eq_fixed hyear u.date.parts_lt.1]
  have hmark : Offset.utc.text = Text.ofString "+00:00" := by rfl
  refine ⟨_, by rw [wire?, hu, Option.map_some], ?_⟩
  let body := u.date.text ++ .char 'T' :: u.secondStart.clock.text
  have hbody : Text.concat
      [Text.ofNat u.date.year, "-", Text.ofNatPadded 2 u.date.month, "-",
       Text.ofNatPadded 2 u.date.day, "T", Text.ofNatPadded 2 u.clock.hour, ":",
       Text.ofNatPadded 2 u.clock.minute, ":", Text.ofNatPadded 2 u.clock.second, "Z"] =
      body ++ [.char 'Z'] := by
    simp [body, hdigits, Text.concat, Text.ofString, Date.text, Clock.text, secondStart,
      Clock.wholeSecond, fractionText]
  have htext : u.secondStart.textWith [.char 'T'] = body ++ Text.ofString "+00:00" := by
    simp [body, textWith, Text.concat, secondStart, hoffset, hmark]
  rw [hbody, expandMark_append, htext]

/-- A time whose year has four digits is written, and what is written is read as the time
rounded down. -/
theorem exists_wire_read
    {t : Timestamp} (hdated : t.HasFourDigitYear) :
    ∃ w, t.wire? = some w ∧ Timestamp.read w = .ok t.roundedDown := by
  obtain ⟨u, hu, hyear⟩ := hdated
  obtain ⟨-, -, -, hoffset⟩ := ofInstant?_eq_some hu
  obtain ⟨w, hw, hexpand⟩ := exists_wire hu hyear
  have hminutes : ∀ o ∈ u.secondStart.offset, Iso.IsWholeMinutes o := by
    intro o ho
    have hutc : Offset.utc = o := by simpa [secondStart, hoffset] using ho
    rw [← hutc]
    rfl
  have haware : u.secondStart.aware = u.secondStart := by
    simp [aware, secondStart, hoffset]
  refine ⟨w, hw, ?_⟩
  rw [Timestamp.read, hexpand, Iso.read_textWith _ hminutes, Except.map, haware,
    roundedDown_of_toUtc? hu]

/-! ## Times rounded down -/

/-- A time rounded down is as many whole seconds away as the time, and no part of one. -/
theorem instant_roundedDown {t : Timestamp} (hdated : t.HasFourDigitYear) :
    t.roundedDown.instant = t.instant / 1000000 * 1000000 := by
  obtain ⟨u, hu, -⟩ := hdated
  rw [roundedDown_of_toUtc? hu]
  exact instant_secondStart hu

theorem second_roundedDown {t : Timestamp} (hdated : t.HasFourDigitYear) :
    t.roundedDown.second = t.second := by
  rw [second, instant_roundedDown hdated, second]
  omega

theorem hasFourDigitYear_roundedDown {t : Timestamp} (hdated : t.HasFourDigitYear) :
    t.roundedDown.HasFourDigitYear := by
  have hinstant := instant_roundedDown hdated
  obtain ⟨u, hu, hyear⟩ := hdated
  refine ⟨u.secondStart, ?_, hyear⟩
  rw [toUtc?, hinstant]
  exact ofInstant?_secondStart hu

end Timestamp
end ActorManifest
