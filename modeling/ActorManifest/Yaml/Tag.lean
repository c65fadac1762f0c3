import ActorManifest.Text.Basic

/-!
# Tags

A tag says what kind of value a node stands for.  A plain scalar without a tag gets one
by its form: the words for null and for truth values, numbers in several bases, and
timestamps.  All else is text.
-/

namespace ActorManifest
namespace Yaml

/-- A tag with a meaning, or one without. -/
inductive Tag where
  | null
  | bool
  | int
  | float
  | binary
  | timestamp
  | str
  | seq
  | map
  | set
  | omap
  | pairs
  | merge
  | value
  | unknown
deriving DecidableEq

/-- The stem of the names of the tags with a meaning. -/
def tagStem : Text := "tag:yaml.org,2002:"

/-- The tags with a meaning and their names after the stem. -/
def tagNames : List (String × Tag) :=
  [("null", .null), ("bool", .bool), ("int", .int), ("float", .float), ("binary", .binary),
   ("timestamp", .timestamp), ("str", .str), ("seq", .seq), ("map", .map), ("set", .set),
   ("omap", .omap), ("pairs", .pairs), ("merge", .merge), ("value", .value)]

/-- The tag of a name. -/
def Tag.ofName (name : Text) : Tag :=
  match Text.after? tagStem name with
  | none => .unknown
  | some rest =>
    ((tagNames.find? fun entry => Text.ofString entry.1 == rest).map Prod.snd).getD .unknown

/-- The words for truth values. -/
def boolWords : List Text :=
  (["yes", "Yes", "YES", "no", "No", "NO", "true", "True", "TRUE", "false", "False", "FALSE",
    "on", "On", "ON", "off", "Off", "OFF"] : List String).map Text.ofString

/-- The words for null. -/
def nullWords : List Text :=
  (["", "~", "null", "Null", "NULL"] : List String).map Text.ofString

/-- The words for numbers that are infinite, after their sign. -/
def infinityWords : List Text :=
  ([".inf", ".Inf", ".INF"] : List String).map Text.ofString

/-- The words for no number. -/
def nanWords : List Text :=
  ([".nan", ".NaN", ".NAN"] : List String).map Text.ofString

/-- The text without a sign in front. -/
def dropSign : Text → Text
  | .char '-' :: rest => rest
  | .char '+' :: rest => rest
  | t => t

/-- Whether a code point is an underscore or satisfies `p`. -/
def orUnderscore (p : CodePoint → Bool) (c : CodePoint) : Bool :=
  c == .char '_' || p c

/-- Whether a code point is a decimal digit or an underscore. -/
def isSpacedDigit : CodePoint → Bool :=
  orUnderscore CodePoint.isAsciiDigit

/-- Whether a text is a digit that satisfies `p` followed by digits and underscores. -/
def isSpacedNumber (p : CodePoint → Bool) : Text → Bool
  | [] => false
  | c :: rest => c.isAsciiDigit && p c && rest.all isSpacedDigit

/-- Whether a text is one place of a number in base sixty. -/
def isSixtieth : Text → Bool
  | [d] => d.isAsciiDigit
  | [c, d] => c.isAsciiDigit && c.toNat < 0x36 && d.isAsciiDigit
  | _ => false

/-- Whether a text is an exponent with a sign, or nothing. -/
def isExponent : Text → Bool
  | [] => true
  | mark :: sign :: digits =>
    (mark == .char 'e' || mark == .char 'E') && (sign == .char '-' || sign == .char '+') &&
      !digits.isEmpty && digits.all CodePoint.isAsciiDigit
  | _ => false

/-- Whether a text is a fraction with an optional exponent, after the point. -/
def isFraction (t : Text) : Bool :=
  isExponent (t.dropWhile isSpacedDigit)

/-- Whether a text is a number in base sixty with a fraction. -/
def isSixtyFloat (t : Text) : Bool :=
  match Text.cutAt? (.char '.') t with
  | none => false
  | some (whole, fraction) =>
    match Text.splitAll (.char ':') whole with
    | first :: second :: places =>
      isSpacedNumber (fun _ => true) first && (second :: places).all isSixtieth &&
        fraction.all isSpacedDigit
    | _ => false

/-- Whether a text has the form of a floating-point number. -/
def isFloat (t : Text) : Bool :=
  let unsigned := dropSign t
  let pointed := match Text.cutAt? (.char '.') unsigned with
    | none => false
    | some (whole, rest) => isSpacedNumber (fun _ => true) whole && isFraction rest
  let bare := match t with
    | .char '.' :: d :: rest => d.isAsciiDigit && isFraction rest
    | _ => false
  pointed || bare || isSixtyFloat unsigned || infinityWords.contains unsigned ||
    nanWords.contains t

/-- Whether a code point is a digit of base two. -/
def isBit (c : CodePoint) : Bool :=
  c == .char '0' || c == .char '1'

/-- Whether a code point is a digit of base eight. -/
def isOctalDigit (c : CodePoint) : Bool :=
  c.isAsciiDigit && c.toNat < 0x38

/-- Whether a text has the form of a whole number. -/
def isInteger (t : Text) : Bool :=
  let nonZero (c : CodePoint) : Bool := c != .char '0'
  match dropSign t with
  | [.char '0'] => true
  | .char '0' :: .char 'b' :: rest => !rest.isEmpty && rest.all (orUnderscore isBit)
  | .char '0' :: .char 'x' :: rest =>
    !rest.isEmpty && rest.all (orUnderscore fun c => c.hexValue?.isSome)
  | .char '0' :: rest => rest.all (orUnderscore isOctalDigit)
  | unsigned =>
    match Text.splitAll (.char ':') unsigned with
    | first :: places => isSpacedNumber nonZero first && places.all isSixtieth
    | [] => false

/-- The offset of a timestamp as it is written. -/
inductive ZoneParts where
  | universal
  | away (negative : Bool) (hour minute : Nat)
deriving DecidableEq

/-- The time of a timestamp as it is written. -/
structure TimeParts where
  hour : Nat
  minute : Nat
  second : Nat
  fraction : Text
  zone : Option ZoneParts
deriving DecidableEq

/-- A timestamp as it is written. -/
structure TimestampParts where
  year : Nat
  month : Nat
  day : Nat
  /-- Whether month and day have two digits each. -/
  full : Bool
  time : Option TimeParts
deriving DecidableEq

/-- A number of at least `least` and at most `most` digits, how many it has, and what follows. -/
def digitsBetween? (least most : Nat) (t : Text) : Option (Nat × Nat × Text) :=
  let digits := (t.take most).takeWhile CodePoint.isAsciiDigit
  if digits.length < least then none
  else
    some ((digits.filterMap CodePoint.hexValue?).foldl (fun n d => n * 10 + d) 0,
      digits.length, t.drop digits.length)

/-- The offset of a timestamp, up to the end of the text. -/
def zoneParts? (t : Text) : Option ZoneParts :=
  let away? (negative : Bool) (t : Text) : Option ZoneParts := do
    let (hour, _, rest) ← digitsBetween? 1 2 t
    match rest with
    | [] => some (.away negative hour 0)
    | .char ':' :: rest =>
      let (minute, _, rest) ← digitsBetween? 2 2 rest
      if rest.isEmpty then some (.away negative hour minute) else none
    | _ => none
  match t with
  | [.char 'Z'] => some .universal
  | .char '-' :: rest => away? true rest
  | .char '+' :: rest => away? false rest
  | _ => none

/-- Whether a code point is a space or a tab. -/
def isTimeBlank (c : CodePoint) : Bool :=
  c == .char ' ' || c == .char '\t'

/-- The time of a timestamp, up to the end of the text. -/
def timeParts? (t : Text) : Option TimeParts := do
  let (hour, _, rest) ← digitsBetween? 1 2 t
  let (minute, _, rest) ← digitsBetween? 2 2 (← Text.after? ":" rest)
  let (second, _, rest) ← digitsBetween? 2 2 (← Text.after? ":" rest)
  let (fraction, rest) : Text × Text := match rest with
    | .char '.' :: more => more.span CodePoint.isAsciiDigit
    | _ => ([], rest)
  if rest.isEmpty then return ⟨hour, minute, second, fraction, none⟩
  let zone ← zoneParts? (rest.dropWhile isTimeBlank)
  return ⟨hour, minute, second, fraction, some zone⟩

/-- The parts of a timestamp, if the text has the form of one. -/
def timestampParts? (t : Text) : Option TimestampParts := do
  let (year, _, rest) ← digitsBetween? 4 4 t
  let (month, monthDigits, rest) ← digitsBetween? 1 2 (← Text.after? "-" rest)
  let (day, dayDigits, rest) ← digitsBetween? 1 2 (← Text.after? "-" rest)
  let full := monthDigits == 2 && dayDigits == 2
  match rest with
  | [] => return ⟨year, month, day, full, none⟩
  | mark :: more =>
    if mark = .char 'T' ∨ mark = .char 't' then
      return ⟨year, month, day, full, some (← timeParts? more)⟩
    else if isTimeBlank mark then
      return ⟨year, month, day, full, some (← timeParts? (more.dropWhile isTimeBlank))⟩
    else none

/-- Whether a text has the form of a timestamp; a date alone has all its digits. -/
def isTimestamp (t : Text) : Bool :=
  (timestampParts? t).any fun parts => parts.time.isSome || parts.full

/-- The text without one line break at its end. -/
def dropLastBreak (t : Text) : Text :=
  match t.reverse with
  | .char '\n' :: before => before.reverse
  | _ => t

/-- The signs that alone are no plain text. -/
def loneSigns : List Text :=
  (["!", "&", "*"] : List String).map Text.ofString

/-- The tag that a plain scalar has by its form.  A line break at the end does not count, but
a line break alone is text. -/
def Tag.ofPlain (content : Text) : Tag :=
  let t := dropLastBreak content
  if boolWords.contains t then .bool
  else if isFloat t then .float
  else if isInteger t then .int
  else if t = Text.ofString "<<" then .merge
  else if nullWords.contains t then
    if content = [.char '\n'] then .str else .null
  else if isTimestamp t then .timestamp
  else if t = Text.ofString "=" then .value
  else if loneSigns.contains t then .unknown
  else .str

end Yaml
end ActorManifest
