import ActorManifest.Json.Basic
import ActorManifest.Machine

/-!
# Reading JSON

The reader follows the grammar of JSON and accepts the names of the floating-point
numbers that JSON lacks.  A field that is repeated keeps its first place and its last
value.  A fault names what was expected and where.  Values nested too deeply and
whole numbers with too many digits are refused.
-/

namespace ActorManifest
namespace Json

/-- What is wrong at a place of a text. -/
inductive Flaw where
  | byteOrderMark
  | value
  | fieldName
  | colon
  | comma
  | controlCharacter
  | openText
  | badEscape
  | badUnit
  | extraData
deriving DecidableEq

/-- The flaw in words. -/
def Flaw.phrase : Flaw → String
  | .byteOrderMark => "Unexpected UTF-8 BOM (decode using utf-8-sig)"
  | .value => "Expecting value"
  | .fieldName => "Expecting property name enclosed in double quotes"
  | .colon => "Expecting ':' delimiter"
  | .comma => "Expecting ',' delimiter"
  | .controlCharacter => "Invalid control character at"
  | .openText => "Unterminated string starting at"
  | .badEscape => "Invalid \\escape"
  | .badUnit => "Invalid \\uXXXX escape"
  | .extraData => "Extra data"

/-- Why a text is not read. -/
inductive Fault where
  /-- The text is no JSON text; the place is a number of code points from its start. -/
  | malformed (flaw : Flaw) (place : Nat)
  /-- A whole number has too many digits. -/
  | longNumber
  /-- Arrays and objects are nested too deeply. -/
  | deepNesting
deriving DecidableEq

/-- The line and the column of a place in a text, both counted from one. -/
def lineColumn (t : Text) (place : Nat) : Nat × Nat :=
  let before := t.take place
  let newline : CodePoint := .char '\n'
  (before.count newline + 1, (before.reverse.takeWhile (· != newline)).length + 1)

/-- A flaw and its place in words. -/
def Flaw.message (t : Text) (flaw : Flaw) (place : Nat) : Text :=
  let (line, column) := lineColumn t place
  Text.concat
    [flaw.phrase, ": line ", Text.ofNat line, " column ", Text.ofNat column, " (char ",
     Text.ofNat place, ")"]

/-- A fault while reading, with the text that was left at the fault. -/
inductive Stop where
  | malformed (flaw : Flaw) (left : Text)
  | longNumber
  | deepNesting

/-- Whether a code point may stand between the parts of a value. -/
def isSpace (c : CodePoint) : Bool :=
  c == .char ' ' || c == .char '\t' || c == .char '\n' || c == .char '\r'

/-- The text after the blanks at its start. -/
def skipSpace (t : Text) : Text :=
  t.dropWhile isSpace

/-- The unit of four hexadecimal digits. -/
def unit? (a b c d : CodePoint) : Option Nat := do
  return (((← a.hexValue?) * 16 + (← b.hexValue?)) * 16 + (← c.hexValue?)) * 16 + (← d.hexValue?)

/-- The code point of a single-letter escape. -/
def letterEscape? : CodePoint → Option CodePoint
  | .char '"' => some (.char '"')
  | .char '\\' => some (.char '\\')
  | .char '/' => some (.char '/')
  | .char 'b' => some (.char '\x08')
  | .char 'f' => some (.char '\x0c')
  | .char 'n' => some (.char '\n')
  | .char 'r' => some (.char '\r')
  | .char 't' => some (.char '\t')
  | _ => none

/-- The code points of a unit, and the text after it.  A first half of a pair takes the second
half with it, if that follows and the text goes on after it. -/
def joinUnits (unit : Nat) (rest : Text) : Except Stop (List CodePoint × Text) :=
  let alone := (CodePoint.ofNat? unit).toList
  if 0xD800 ≤ unit ∧ unit < 0xDC00 then
    match rest with
    | .char '\\' :: .char 'u' :: a :: b :: c :: d :: next :: more =>
      match unit? a b c d with
      | none =>
        .error (.malformed .badUnit (.char 'u' :: a :: b :: c :: d :: next :: more))
      | some low =>
        if 0xDC00 ≤ low ∧ low < 0xE000 then
          let joined := 0x10000 + (unit - 0xD800) * 0x400 + (low - 0xDC00)
          .ok ((CodePoint.ofNat? joined).toList, next :: more)
        else .ok (alone, rest)
    | _ => .ok (alone, rest)
  else .ok (alone, rest)

/-- The text up to the closing quote and what follows it, where `opening` is the text from the
opening quote on. -/
def readText (opening : Text) : (fuel : Nat) → Text → Except Stop (Text × Text)
  | 0, _ => .error (.malformed .openText opening)
  | fuel + 1, t =>
    match t with
    | [] => .error (.malformed .openText opening)
    | .char '"' :: rest => .ok ([], rest)
    | .char '\\' :: [] => .error (.malformed .openText opening)
    | .char '\\' :: .char 'u' :: rest =>
      match rest with
      | a :: b :: c :: d :: next :: more =>
        match unit? a b c d with
        | none => .error (.malformed .badUnit (.char 'u' :: rest))
        | some unit => do
          let (points, rest) ← joinUnits unit (next :: more)
          let (content, rest) ← readText opening fuel rest
          return (points ++ content, rest)
      | _ => .error (.malformed .badUnit (.char 'u' :: rest))
    | .char '\\' :: letter :: rest =>
      match letterEscape? letter with
      | none => .error (.malformed .badEscape t)
      | some c => do
        let (content, rest) ← readText opening fuel rest
        return (c :: content, rest)
    | c :: rest =>
      if c.toNat < 0x20 then .error (.malformed .controlCharacter t)
      else do
        let (content, rest) ← readText opening fuel rest
        return (c :: content, rest)

/-- The digits at the start of a text and what follows them. -/
def digits (t : Text) : Text × Text :=
  t.span CodePoint.isAsciiDigit

/-- The whole part of a number: a zero, or digits that begin with another digit. -/
def wholePart? : Text → Option (Text × Text)
  | .char '0' :: rest => some (("0" : Text), rest)
  | t =>
    let (whole, rest) := digits t
    if whole.isEmpty then none else some (whole, rest)

/-- The fraction of a number with its point; nothing if no digit follows the point. -/
def fractionPart : Text → Text × Text
  | .char '.' :: rest =>
    let (ds, after) := digits rest
    if ds.isEmpty then ([], .char '.' :: rest) else (.char '.' :: ds, after)
  | t => ([], t)

/-- The exponent of a number with its mark; nothing if no digit follows. -/
def exponentPart (t : Text) : Text × Text :=
  match t with
  | mark :: rest =>
    if mark = .char 'e' ∨ mark = .char 'E' then
      let (sign, rest) : Text × Text := match rest with
        | .char '-' :: more => ("-", more)
        | .char '+' :: more => ("+", more)
        | _ => ([], rest)
      let (ds, after) := digits rest
      if ds.isEmpty then ([], t) else (mark :: sign ++ ds, after)
    else ([], t)
  | [] => ([], t)

/-- The number at the start of a text. -/
def readNumber (t : Text) : Except Stop (Json × Text) :=
  let (sign, rest) : Text × Text := match t with
    | .char '-' :: rest => ("-", rest)
    | _ => ([], t)
  match wholePart? rest with
  | none => .error (.malformed .value t)
  | some (whole, rest) =>
    let (fraction, rest) := fractionPart rest
    let (exponent, rest) := exponentPart rest
    if fraction.isEmpty && exponent.isEmpty then
      match Integer.read? 10 (sign ++ whole) with
      | some n => .ok (.int n, rest)
      | none => .error .longNumber
    else
      .ok (.float ((Binary64.read? (sign ++ whole ++ fraction ++ exponent)).getD .nan), rest)

/-- The names of values, each with its value. -/
def names : List (String × Json) :=
  [("null", .null), ("true", .bool true), ("false", .bool false), ("NaN", .float .nan),
   ("Infinity", .float (.infinite false)), ("-Infinity", .float (.infinite true))]

/-- The value whose name stands at the start of a text. -/
def readName? (t : Text) : Option (Json × Text) :=
  names.findSome? fun (name, value) => (Text.after? name t).map fun rest => (value, rest)

mutual

/-- The value at the start of a text and what follows it, where `depth` more levels may be
opened. -/
def readValue (depth : Nat) : (fuel : Nat) → Text → Except Stop (Json × Text)
  | 0, _ => .error .deepNesting
  | fuel + 1, t =>
    match t with
    | .char '"' :: rest => do
      let (content, rest) ← readText t (rest.length + 1) rest
      return (.text content, rest)
    | .char '[' :: rest =>
      match depth with
      | 0 => .error .deepNesting
      | depth + 1 =>
        match skipSpace rest with
        | .char ']' :: rest => .ok (.array [], rest)
        | rest => do
          let (items, rest) ← readItems depth fuel rest
          return (.array items, rest)
    | .char '\x7b' :: rest =>
      match depth with
      | 0 => .error .deepNesting
      | depth + 1 =>
        match skipSpace rest with
        | .char '\x7d' :: rest => .ok (.object [], rest)
        | rest => do
          let (fields, rest) ← readFields depth fuel rest
          return (.object (Entries.ofList (· == ·) fields), rest)
    | _ =>
      match readName? t with
      | some found => .ok found
      | none => readNumber t

/-- The items up to the bracket that closes the array. -/
def readItems (depth : Nat) : (fuel : Nat) → Text → Except Stop (List Json × Text)
  | 0, _ => .error .deepNesting
  | fuel + 1, t => do
    let (item, rest) ← readValue depth fuel t
    match skipSpace rest with
    | .char ']' :: rest => return ([item], rest)
    | .char ',' :: rest =>
      let (items, rest) ← readItems depth fuel (skipSpace rest)
      return (item :: items, rest)
    | rest => throw (.malformed .comma rest)

/-- The fields up to the brace that closes the object. -/
def readFields (depth : Nat) : (fuel : Nat) → Text → Except Stop (List (Text × Json) × Text)
  | 0, _ => .error .deepNesting
  | fuel + 1, t =>
    match t with
    | .char '"' :: rest => do
      let (name, rest) ← readText t (rest.length + 1) rest
      match skipSpace rest with
      | .char ':' :: rest =>
        let (value, rest) ← readValue depth fuel (skipSpace rest)
        match skipSpace rest with
        | .char '\x7d' :: rest => return ([(name, value)], rest)
        | .char ',' :: rest =>
          let (fields, rest) ← readFields depth fuel (skipSpace rest)
          return ((name, value) :: fields, rest)
        | rest => throw (.malformed .comma rest)
      | rest => throw (.malformed .colon rest)
    | _ => .error (.malformed .fieldName t)

end

variable [Machine]

/-- The value of a whole text. -/
def readWhole (t : Text) : Except Stop Json :=
  match t with
  | .char '\uFEFF' :: _ => .error (.malformed .byteOrderMark t)
  | _ => do
    let (value, rest) ← readValue Machine.valueLevels (2 * t.length + 2) (skipSpace t)
    match skipSpace rest with
    | [] => return value
    | rest => throw (.malformed .extraData rest)

/-- The value of a JSON text. -/
def read (t : Text) : Except Fault Json :=
  match readWhole t with
  | .ok value => .ok value
  | .error (.malformed flaw left) => .error (.malformed flaw (t.length - left.length))
  | .error .longNumber => .error .longNumber
  | .error .deepNesting => .error .deepNesting

end Json
end ActorManifest
