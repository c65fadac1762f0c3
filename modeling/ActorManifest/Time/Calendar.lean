/-!
# The calendar

Dates of the Gregorian calendar, extended backwards to the year 1 and ending with
the year 9999.  Days are numbered from zero at the first of January of the year 1,
which is a Monday.  A week of the year is numbered so that the first week is the
one that holds the fourth of January.
-/

namespace ActorManifest
namespace Calendar

/-- Whether a year has a twenty-ninth of February. -/
def isLeapYear (year : Nat) : Bool :=
  year % 4 == 0 && (year % 100 != 0 || year % 400 == 0)

/-- How many days a month has. -/
def daysInMonth (year month : Nat) : Nat :=
  if month = 2 then (if isLeapYear year then 29 else 28)
  else if month = 4 ∨ month = 6 ∨ month = 9 ∨ month = 11 then 30
  else 31

/-- How many days come before the first of January of a year. -/
def daysBeforeYear (year : Nat) : Nat :=
  let past := year - 1
  365 * past + past / 4 - past / 100 + past / 400

/-- How many days of a year come before the first of a month. -/
def daysBeforeMonth (year month : Nat) : Nat :=
  ((List.range' 1 (month - 1)).map (daysInMonth year)).foldl (· + ·) 0

/-- The year of a day and how many days of that year come before it.  Four hundred years
have 146097 days, a century without a leap year at its end 36524, four years with one 1461. -/
def yearOfDay (n : Nat) : Nat × Nat :=
  let cycles := n / 146097
  let n := n % 146097
  let centuries := min 3 (n / 36524)
  let n := n - centuries * 36524
  let quads := n / 1461
  let n := n % 1461
  let years := min 3 (n / 365)
  (400 * cycles + 100 * centuries + 4 * quads + years + 1, n - years * 365)

/-- The month and the day of the month, where `n` counts the days since the first of the
first of `months`. -/
def monthOfDay (year : Nat) : List Nat → Nat → Nat × Nat
  | [], n => (12, n + 1)
  | month :: months, n =>
    if n < daysInMonth year month then (month, n + 1)
    else monthOfDay year months (n - daysInMonth year month)

/-- The year, month and day of a day number. -/
def civil (n : Nat) : Nat × Nat × Nat :=
  let (year, rest) := yearOfDay n
  (year, monthOfDay year (List.range' 1 12) rest)

/-- How many days a week-numbered year begins after the first day of the calendar; before it,
the number is negative. -/
def firstWeekStart (year : Nat) : Int :=
  let newYear : Int := if year = 0 then -366 else daysBeforeYear year
  let weekday := newYear % 7
  if weekday ≤ 3 then newYear - weekday else newYear - weekday + 7

/-- Whether a year has a fifty-third week: it begins on a Thursday, or it is a leap year that
begins on a Wednesday. -/
def hasLongWeeks (year : Nat) : Bool :=
  let newYear : Int := if year = 0 then -366 else daysBeforeYear year
  let weekday := newYear % 7
  weekday == 3 || (weekday == 2 && isLeapYear year)

/-- Whether a year has a week of this number. -/
def hasWeek (year week : Nat) : Bool :=
  1 ≤ week && (week ≤ 52 || (week == 53 && hasLongWeeks year))

/-- The year, month and day of a day of a week.  A day before the calendar begins has no
month. -/
def civilOfWeek (year week day : Nat) : Nat × Nat × Nat :=
  let n := firstWeekStart year + ((week - 1) * 7 + (day - 1) : Nat)
  if n < 0 then (1, 0, 0) else civil n.toNat

end Calendar

/-- Why three numbers are no date; the first that applies. -/
inductive DateFault where
  | year (given : Nat)
  | month
  | day
deriving DecidableEq

/-- The fault in words. -/
def DateFault.message : DateFault → String
  | .year given => "year " ++ String.ofList (Nat.toDigits 10 given) ++ " is out of range"
  | .month => "month must be in 1..12"
  | .day => "day is out of range for month"

/-- What makes three numbers a date. -/
def IsDate (year month day : Nat) : Prop :=
  (1 ≤ year ∧ year ≤ 9999) ∧ (1 ≤ month ∧ month ≤ 12) ∧
    1 ≤ day ∧ day ≤ Calendar.daysInMonth year month

instance (year month day : Nat) : Decidable (IsDate year month day) :=
  inferInstanceAs (Decidable (_ ∧ _ ∧ _))

/-- A date of the calendar. -/
structure Date where
  year : Nat
  month : Nat
  day : Nat
  isDate : IsDate year month day
deriving DecidableEq

namespace Date

/-- The date of three numbers, or what is wrong with them. -/
def ofParts (year month day : Nat) : Except DateFault Date :=
  if hdate : IsDate year month day then .ok ⟨year, month, day, hdate⟩
  else if year < 1 ∨ 9999 < year then .error (.year year)
  else if month < 1 ∨ 12 < month then .error .month
  else .error .day

/-- How many days come before a date. -/
def dayNumber (d : Date) : Nat :=
  Calendar.daysBeforeYear d.year + Calendar.daysBeforeMonth d.year d.month + (d.day - 1)

/-- The date with a given number of days before it, up to the end of the calendar. -/
def ofDayNumber? (n : Nat) : Option Date :=
  let (year, month, day) := Calendar.civil n
  (ofParts year month day).toOption

end Date
end ActorManifest
