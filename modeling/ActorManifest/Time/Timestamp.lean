import ActorManifest.Text.Basic
import ActorManifest.Time.Calendar

/-!
# Timestamps

A timestamp is a date, a time of day to the microsecond and, unless it is naive, an
offset from universal time of less than a day.  A naive timestamp stands for
universal time wherever an instant is needed.  An instant is a number of
microseconds since the calendar begins.
-/

namespace ActorManifest

/-- Why three numbers are no time of day; the first that applies. -/
inductive ClockFault where
  | hour
  | minute
  | second
deriving DecidableEq

/-- The fault in words. -/
def ClockFault.message : ClockFault → String
  | .hour => "hour must be in 0..23"
  | .minute => "minute must be in 0..59"
  | .second => "second must be in 0..59"

/-- What makes four numbers a time of day. -/
def IsClock (hour minute second micro : Nat) : Prop :=
  hour < 24 ∧ minute < 60 ∧ second < 60 ∧ micro < 1000000

instance (hour minute second micro : Nat) : Decidable (IsClock hour minute second micro) :=
  inferInstanceAs (Decidable (_ ∧ _ ∧ _ ∧ _))

/-- A time of day. -/
structure Clock where
  hour : Nat
  minute : Nat
  second : Nat
  micro : Nat
  isClock : IsClock hour minute second micro
deriving DecidableEq

namespace Clock

/-- The start of the day. -/
def midnight : Clock := ⟨0, 0, 0, 0, by decide⟩

/-- The time of day of four numbers, or what is wrong with them. -/
def ofParts (hour minute second micro : Nat) : Except ClockFault Clock :=
  if hclock : IsClock hour minute second micro then .ok ⟨hour, minute, second, micro, hclock⟩
  else if 24 ≤ hour then .error .hour
  else if 60 ≤ minute then .error .minute
  else .error .second

/-- The microseconds since midnight. -/
def micros (c : Clock) : Nat :=
  ((c.hour * 60 + c.minute) * 60 + c.second) * 1000000 + c.micro

/-- The time of day at a number of microseconds since midnight, modulo a day. -/
def ofMicros (n : Nat) : Clock where
  hour := n / 3600000000 % 24
  minute := n / 60000000 % 60
  second := n / 1000000 % 60
  micro := n % 1000000
  isClock := by unfold IsClock; omega

end Clock

/-- The microseconds of a day. -/
def dayMicros : Nat := 86400000000

/-- A distance from universal time, east being positive. -/
structure Offset where
  micros : Int
  isOffset : -(dayMicros : Int) < micros ∧ micros < dayMicros
deriving DecidableEq

namespace Offset

/-- No distance. -/
def utc : Offset := ⟨0, by decide⟩

/-- The offset of a number of microseconds, if it is less than a day. -/
def ofMicros? (n : Int) : Option Offset :=
  if hoffset : -(dayMicros : Int) < n ∧ n < dayMicros then some ⟨n, hoffset⟩ else none

end Offset

/-- A date with a time of day and, unless it is naive, an offset. -/
structure Timestamp where
  date : Date
  clock : Clock
  offset : Option Offset
deriving DecidableEq

namespace Timestamp

/-- The microseconds from the start of the calendar to the timestamp, its offset ignored. -/
def localMicros (t : Timestamp) : Nat :=
  t.date.dayNumber * dayMicros + t.clock.micros

/-- The instant of a timestamp. -/
def instant (t : Timestamp) : Int :=
  t.localMicros - (t.offset.getD Offset.utc).micros

/-- The timestamp in universal time at an instant, if the calendar covers it. -/
def ofInstant? (i : Int) : Option Timestamp :=
  if i < 0 then none
  else
    (Date.ofDayNumber? (i.toNat / dayMicros)).map fun date =>
      ⟨date, Clock.ofMicros (i.toNat % dayMicros), some Offset.utc⟩

/-- The timestamp, with a naive one placed in universal time. -/
def aware (t : Timestamp) : Timestamp :=
  { t with offset := some (t.offset.getD Offset.utc) }

/-- The same instant in universal time, if the calendar covers it. -/
def toUtc? (t : Timestamp) : Option Timestamp :=
  ofInstant? t.instant

/-- The wire form: universal time to the second.  The year has no zeros in front. -/
def wire? (t : Timestamp) : Option Text :=
  t.toUtc?.map fun u =>
    Text.concat
      [Text.ofNat u.date.year, "-", Text.ofNatPadded 2 u.date.month, "-",
       Text.ofNatPadded 2 u.date.day, "T", Text.ofNatPadded 2 u.clock.hour, ":",
       Text.ofNatPadded 2 u.clock.minute, ":", Text.ofNatPadded 2 u.clock.second, "Z"]

end Timestamp

/-- The text of a date: year, month and day with all their digits. -/
def Date.text (d : Date) : Text :=
  Text.concat
    [Text.ofNatPadded 4 d.year, "-", Text.ofNatPadded 2 d.month, "-", Text.ofNatPadded 2 d.day]

/-- The fraction of a second after its point; nothing if it is zero. -/
def fractionText (micro : Nat) : Text :=
  if micro = 0 then [] else Text.concat [".", Text.ofNatPadded 6 micro]

/-- The text of a time of day. -/
def Clock.text (c : Clock) : Text :=
  Text.concat
    [Text.ofNatPadded 2 c.hour, ":", Text.ofNatPadded 2 c.minute, ":",
     Text.ofNatPadded 2 c.second, fractionText c.micro]

/-- The text of an offset: hours and minutes, and what is smaller if there is any. -/
def Offset.text (o : Offset) : Text :=
  let n := o.micros.natAbs
  let seconds := n / 1000000
  let micro := n % 1000000
  Text.concat
    [if o.micros < 0 then "-" else "+", Text.ofNatPadded 2 (seconds / 3600), ":",
     Text.ofNatPadded 2 (seconds / 60 % 60),
     if seconds % 60 = 0 ∧ micro = 0 then []
     else Text.concat [":", Text.ofNatPadded 2 (seconds % 60), fractionText micro]]

/-- The text of a timestamp, with a given separator between date and time. -/
def Timestamp.textWith (separator : Text) (t : Timestamp) : Text :=
  Text.concat
    [t.date.text, separator, t.clock.text, (t.offset.map Offset.text).getD []]

/-- The text of a timestamp in the form that the reader of timestamps accepts. -/
def Timestamp.text (t : Timestamp) : Text :=
  t.textWith "T"

/-- A span of time in the words of a message: whole days toward the past, then seconds and
microseconds, each left out if it is zero. -/
def spanText (micros : Int) : Text :=
  let days := micros.fdiv dayMicros
  let rest := (micros - days * dayMicros).toNat
  let parts : List (String × Int) :=
    [("days=", days), ("seconds=", (rest / 1000000 : Nat)),
     ("microseconds=", (rest % 1000000 : Nat))]
  let shown := (parts.filter fun part => part.2 != 0).map fun part =>
    Text.concat [part.1, Text.ofInt part.2]
  Text.concat
    ["datetime.timedelta(", if shown.isEmpty then "0" else Text.join ", " shown, ")"]

end ActorManifest
