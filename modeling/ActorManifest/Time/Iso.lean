import ActorManifest.Text.Quoted
import ActorManifest.Text.Utf8
import ActorManifest.Time.Timestamp

/-!
# Reading timestamps

A timestamp is a date, then any one code point, then a time of day with an optional
offset.  Dates are written `YYYY-MM-DD`, `YYYYMMDD`, `YYYY-Www`, `YYYYWww`,
`YYYY-Www-D` or `YYYYWwwD`; times are written `HH`, `HH:MM` or `HH:MM:SS`, with or
without colons and with a fraction; an offset is `Z` or a sign and a time.  Times are
read octet by octet: a null octet ends the text, and one octet that nothing else
explains may stand between a time and its offset.
-/

namespace ActorManifest
namespace Iso

/-- Why a text is no timestamp. -/
inductive Fault where
  /-- The text has none of the forms. -/
  | form (given : Text)
  /-- The offset is a day or more; it is given in microseconds. -/
  | offset (micros : Int)
  /-- The numbers of the date are no date. -/
  | date (cause : DateFault)
  /-- The numbers of the time are no time of day. -/
  | clock (cause : ClockFault)
deriving DecidableEq

/-- The fault in words. -/
def Fault.message : Fault → Text
  | .form given => Text.concat ["Invalid isoformat string: ", Text.quoted given]
  | .offset micros =>
    Text.concat
      ["offset must be a timedelta strictly between -timedelta(hours=24) and ",
       "timedelta(hours=24), not ", spanText micros, "."]
  | .date cause => cause.message
  | .clock cause => cause.message

/-- The value of a digit among octets. -/
def digit? (octet : UInt8) : Option Nat :=
  if 0x30 ≤ octet ∧ octet ≤ 0x39 then some (octet.toNat - 0x30) else none

/-- The first octets of a time that must all be digits, as a number, and what follows them. -/
def takeDigits? : (count : Nat) → (value : Nat) → List UInt8 → Option (Nat × List UInt8)
  | 0, value, rest => some (value, rest)
  | _ + 1, _, [] => none
  | count + 1, value, octet :: rest =>
    (digit? octet).bind fun d => takeDigits? count (value * 10 + d) rest

/-- The numbers of a time of day as they are written. -/
structure ClockParts where
  hour : Nat
  minute : Nat
  second : Nat
  micro : Nat

/-- The time of day of the fields read so far. -/
def clockParts (fields : List Nat) (micro : Nat) : ClockParts :=
  ⟨fields.getD 0 0, fields.getD 1 0, fields.getD 2 0, micro⟩

/-- A fraction of a second: up to six digits count, further digits are passed over.  The flag
tells whether something else follows before the null octet. -/
def readFraction? (fields : List Nat) (rest : List UInt8) (next : UInt8) :
    Option (ClockParts × Bool) :=
  let count := min 6 rest.length
  (takeDigits? count 0 rest).map fun (value, rest) =>
    let after := rest.dropWhile fun octet => (digit? octet).isSome
    (clockParts fields (value * Nat.pow 10 (6 - count)), after.headD next != 0)

/-- The fields of a time of day, where `count` more may follow, `colons` tells whether they
are separated, and `next` is the octet after the last of them.  The flag tells whether
something is left. -/
def readFields? (next : UInt8) :
    (count : Nat) → (colons : Option Bool) → (fields : List Nat) → List UInt8 →
      Option (ClockParts × Bool)
  | 0, _, fields, rest => readFraction? fields rest next
  | count + 1, colons, fields, rest =>
    (takeDigits? 2 0 rest).bind fun (value, rest) =>
      let fields := fields ++ [value]
      match rest with
      | [] => some (clockParts fields 0, next != 0)
      | [octet] => some (clockParts fields 0, octet != 0)
      | octet :: more =>
        let colons := colons.getD (octet == 0x3A)
        if colons && octet == 0x3A then readFields? next count (some colons) fields more
        else if octet == 0x2E || octet == 0x2C then readFraction? fields more next
        else if !colons then readFields? next count (some colons) fields (octet :: more)
        else none

/-- The fields of a time of day at the start of some octets. -/
def readClock? (octets : List UInt8) (next : UInt8) : Option (ClockParts × Bool) :=
  readFields? next 3 none [] octets

/-- Whether an octet begins an offset. -/
def beginsOffset (octet : UInt8) : Bool :=
  octet == 0x2B || octet == 0x2D || octet == 0x5A

/-- A time of day and its offset in microseconds, if it has one. -/
def readTime? (octets : List UInt8) : Option (ClockParts × Option Int) :=
  let (time, zone) := octets.span fun octet => !beginsOffset octet
  match zone with
  | [] =>
    (readClock? time 0).bind fun (parts, left) => if left then none else some (parts, none)
  | mark :: rest =>
    (readClock? time mark).bind fun (parts, _) =>
      if mark == 0x5A then
        if rest.headD 0 == 0 then some (parts, some 0) else none
      else
        (readClock? rest 0).bind fun (away, left) =>
          if left then none
          else
            let seconds := (away.hour * 60 + away.minute) * 60 + away.second
            let micros := if seconds = 0 then 0 else seconds * 1000000 + away.micro
            some (parts, some (if mark == 0x2D then -(micros : Int) else micros))

/-- How many code points the date at the start of a text takes, judged by its marks alone. -/
def dateLength? (t : Text) : Option Nat :=
  let at? (i : Nat) (c : Char) : Bool := t[i]? == some (.char c)
  let digitAt (i : Nat) : Bool := (t[i]?.map CodePoint.isAsciiDigit).getD false
  if t.length = 7 then some 7
  else if at? 4 '-' then
    if at? 5 'W' then
      if t.length < 8 then none
      else if at? 8 '-' then
        if t.length = 9 then none
        else if digitAt 10 then some 8 else some 10
      else some 8
    else some 10
  else if at? 4 'W' then
    let last := 7 + ((t.drop 7).takeWhile CodePoint.isAsciiDigit).length
    if last < 9 then some last
    else if last % 2 = 0 then some 7 else some 8
  else some 8

/-- The number of a text of digits of a given length. -/
def number? (length : Nat) (t : Text) : Option Nat :=
  if t.length = length && t.all CodePoint.isAsciiDigit then
    some ((t.filterMap CodePoint.hexValue?).foldl (fun n d => n * 10 + d) 0)
  else none

/-- The two fields after a year, with the separator between them that the year has. -/
def fields? (separated : Bool) (first second : Nat) (t : Text) : Option (Nat × Nat) :=
  let rest := t.drop first
  let rest? := if separated then Text.after? "-" rest else some rest
  (number? first (t.take first)).bind fun a =>
    rest?.bind fun rest => (number? second rest).map fun b => (a, b)

/-- The year, month and day of a date in one of its forms.  They need not be a date. -/
def readDate? (t : Text) : Option (Nat × Nat × Nat) :=
  (number? 4 (t.take 4)).bind fun year =>
    let (separated, rest) : Bool × Text := match t.drop 4 with
      | .char '-' :: rest => (true, rest)
      | rest => (false, rest)
    match rest with
    | .char 'W' :: rest =>
      let week? : Option (Nat × Nat) :=
        if rest.length = 2 then (number? 2 rest).map fun week => (week, 1)
        else fields? separated 2 1 rest
      week?.bind fun (week, day) =>
        if Calendar.hasWeek year week && 1 ≤ day && day ≤ 7 then
          some (Calendar.civilOfWeek year week day)
        else none
    | rest => (fields? separated 2 2 rest).map fun (month, day) => (year, month, day)

/-- The date, the time and the offset of a text as they are written. -/
def readParts? (t : Text) : Option ((Nat × Nat × Nat) × ClockParts × Option Int) :=
  if t.length < 7 then none
  else
    (dateLength? t).bind fun length =>
      (readDate? (t.take length)).bind fun date =>
        match t.drop length with
        | [] => some (date, ⟨0, 0, 0, 0⟩, none)
        | _ :: time =>
          (Utf8.encode? time).bind fun octets =>
            (readTime? octets).map fun (clock, offset) => (date, clock, offset)

/-- The offset of a number of microseconds. -/
def readOffset : Option Int → Except Fault (Option Offset)
  | none => .ok none
  | some micros =>
    match Offset.ofMicros? micros with
    | some offset => .ok (some offset)
    | none => .error (.offset micros)

/-- The timestamp of a text. -/
def read (t : Text) : Except Fault Timestamp :=
  match readParts? t with
  | none => .error (.form t)
  | some ((year, month, day), clock, micros) => do
    let offset ← readOffset micros
    let date ← (Date.ofParts year month day).mapError Fault.date
    let clock ←
      (Clock.ofParts clock.hour clock.minute clock.second clock.micro).mapError Fault.clock
    return ⟨date, clock, offset⟩

/-- The text with the mark of universal time at its end written out. -/
def expandMark (t : Text) : Text :=
  match t.reverse with
  | .char 'Z' :: before => before.reverse ++ Text.ofString "+00:00"
  | _ => t

end Iso

/-- The aware timestamp of a text; a `Z` at its end marks universal time, and so does the
lack of an offset. -/
def Timestamp.read (t : Text) : Except Iso.Fault Timestamp :=
  (Iso.read (Iso.expandMark t)).map Timestamp.aware

end ActorManifest
