import ActorManifest.Number.Decimal
import ActorManifest.Text.Quoted
import ActorManifest.Time.Timestamp

/-!
# Scalars

The values that a document holds at its leaves and under which its mappings keep
their entries.  Two keys are the same if they are equal as numbers, truth values
counting as zero and one; aware timestamps are the same if their instants are.
-/

namespace ActorManifest

/-- A value without parts. -/
inductive Scalar where
  | null
  | bool (b : Bool)
  | int (n : Int)
  | float (x : Binary64)
  | text (t : Text)
  | bytes (octets : List UInt8)
  | date (d : Date)
  | time (t : Timestamp)
deriving DecidableEq, Inhabited

namespace Scalar

/-- The integer that a scalar equals. -/
def toInt? : Scalar → Option Int
  | .bool b => some (if b then 1 else 0)
  | .int n => some n
  | .float x => x.toInt?
  | _ => none

/-- Whether two scalars are the same key. -/
def sameKey (a b : Scalar) : Bool :=
  match a.toInt?, b.toInt? with
  | some m, some n => m == n
  | none, none =>
    match a, b with
    | .time s, .time t => s.offset.isSome == t.offset.isSome && s.instant == t.instant
    | _, _ => a == b
  | _, _ => false

/-- The name of the kind of a scalar. -/
def kindName : Scalar → String
  | .null => "NoneType"
  | .bool _ => "bool"
  | .int _ => "int"
  | .float _ => "float"
  | .text _ => "str"
  | .bytes _ => "bytes"
  | .date _ => "date"
  | .time _ => "datetime"

end Scalar

/-- Whether an integer has few enough digits to be written. -/
def isWritable (n : Int) : Bool :=
  n.natAbs < Nat.pow 10 4300

/-- An integer as text, unless it has too many digits to be written. -/
def integerText? (n : Int) : Option Text :=
  if isWritable n then some (Text.ofInt n) else none

/-- A date as it is shown inside another value. -/
def Date.shown (d : Date) : Text :=
  Text.concat
    ["datetime.date(", Text.join ", " [Text.ofNat d.year, Text.ofNat d.month, Text.ofNat d.day],
     ")"]

/-- An offset as it is shown inside another value. -/
def Offset.shown (o : Offset) : Text :=
  if o.micros = 0 then "datetime.timezone.utc"
  else Text.concat ["datetime.timezone(", spanText o.micros, ")"]

/-- A timestamp as it is shown inside another value; what is zero at the end is left out. -/
def Timestamp.shown (t : Timestamp) : Text :=
  let c := t.clock
  let small :=
    if c.micro ≠ 0 then [Text.ofNat c.second, Text.ofNat c.micro]
    else if c.second ≠ 0 then [Text.ofNat c.second] else []
  let zone := match t.offset with
    | none => []
    | some o => [Text.concat ["tzinfo=", o.shown]]
  Text.concat
    ["datetime.datetime(",
     Text.join ", "
       ([Text.ofNat t.date.year, Text.ofNat t.date.month, Text.ofNat t.date.day,
         Text.ofNat c.hour, Text.ofNat c.minute] ++ small ++ zone),
     ")"]

namespace Scalar

/-- A scalar as it is shown inside another value, unless it has too many digits. -/
def shown? : Scalar → Option Text
  | .null => some "None"
  | .bool b => some (if b then "True" else "False")
  | .int n => integerText? n
  | .float x => some x.text
  | .text t => some t.quoted
  | .bytes octets => some (Text.quotedOctets octets)
  | .date d => some d.shown
  | .time t => some t.shown

/-- A scalar as text: text stands for itself, and dates are written as they are read. -/
def text? : Scalar → Option Text
  | .text t => some t
  | .date d => some d.text
  | .time t => some (t.textWith " ")
  | s => s.shown?

end Scalar
end ActorManifest
