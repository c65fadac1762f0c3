import ActorManifest.Document.Scalar
import ActorManifest.Octets.Base64
import ActorManifest.Yaml.Fault
import ActorManifest.Yaml.Tag

/-!
# Values of scalars

The value of a scalar by its tag.  A plain scalar always has the form of its tag, but a
tag that is written may stand in front of anything, and even a scalar of the right form
may have no value.
-/

namespace ActorManifest
namespace Yaml

/-- The content without underscores. -/
def dropUnderscores (t : Text) : Text :=
  t.filter fun c => c != .char '_'

/-- A sign and the content behind it; content that is empty has neither. -/
def splitSign : Text → Except Fault (Bool × Text)
  | [] => .error .emptyNumber
  | .char '-' :: rest => .ok (true, rest)
  | .char '+' :: rest => .ok (false, rest)
  | t => .ok (false, t)

/-- An integer in a base, or the fault of a bad value. -/
def integerIn (base : Nat) (t : Text) : Except Fault Int :=
  (Integer.read? base t).elim (.error .badValue) .ok

/-- The integer with a sign. -/
def withSign (negative : Bool) (n : Int) : Int :=
  if negative then -n else n

/-- A whole number: binary, hexadecimal and octal numbers have their marks, a zero marking the
last, and colons stand between the places of a number in base sixty. -/
def integerValue (content : Text) : Except Fault Int := do
  let (negative, t) ← splitSign (dropUnderscores content)
  let magnitude ←
    match t with
    | [.char '0'] => .ok 0
    | .char '0' :: .char 'b' :: rest => integerIn 2 rest
    | .char '0' :: .char 'x' :: rest => integerIn 16 rest
    | .char '0' :: _ => integerIn 8 t
    | [] => .error .emptyNumber
    | _ =>
      if t.contains (.char ':') then do
        let places ← (Text.splitAll (.char ':') t).mapM (integerIn 10)
        pure (places.foldl (fun n place => n * 60 + place) 0)
      else integerIn 10 t
  return withSign negative magnitude

/-- A floating-point number, or the fault of a bad value. -/
def floatIn (t : Text) : Except Fault Binary64 :=
  (Binary64.read? t).elim (.error .badValue) .ok

/-- The sum of the places of a number in base sixty, the last place first. -/
def sumPlaces (base : Nat) (total : Binary64) : List Binary64 → Except Fault Binary64
  | [] => .ok total
  | place :: places =>
    let weight := Binary64.ofNat base
    if weight.isInfinite then .error .manyPlaces
    else sumPlaces (base * 60) (total.add (place.mul weight)) places

/-- The number with a sign. -/
def floatWithSign (negative : Bool) (x : Binary64) : Binary64 :=
  if negative then x.neg else x

/-- A floating-point number, or one in base sixty. -/
def floatValue (content : Text) : Except Fault Binary64 := do
  let (negative, t) ← splitSign (Text.lower (dropUnderscores content))
  if t = Text.ofString ".inf" then return .infinite negative
  else if t = Text.ofString ".nan" then return .nan
  else if t.contains (.char ':') then
    let places ← (Text.splitAll (.char ':') t).mapM floatIn
    return floatWithSign negative (← sumPlaces 1 (Binary64.zeroOf false) places.reverse)
  else return floatWithSign negative (← floatIn t)

/-- A truth value. -/
def boolValue (content : Text) : Except Fault Bool :=
  let word := Text.lower content
  if word = Text.ofString "yes" ∨ word = Text.ofString "true" ∨ word = Text.ofString "on" then
    .ok true
  else if word = Text.ofString "no" ∨ word = Text.ofString "false" ∨ word = Text.ofString "off"
  then .ok false
  else .error .badTruth

/-- Octets in base 64. -/
def octetsValue (content : Text) : Except Fault (List UInt8) :=
  match content.toChars? with
  | none => .error .badOctets
  | some cs =>
    if cs.all fun c => c.toNat < 0x80 then (Base64.decode? cs).elim (.error .badOctets) .ok
    else .error .badOctets

/-- The microseconds of a fraction of a second; digits after the sixth do not count. -/
def fractionMicros (digits : Text) : Nat :=
  let ds := (digits.take 6).filterMap CodePoint.hexValue?
  ds.foldl (fun n d => n * 10 + d) 0 * Nat.pow 10 (6 - ds.length)

/-- The offset of a timestamp. -/
def zoneValue : Option ZoneParts → Except Fault (Option Offset)
  | none => .ok none
  | some .universal => .ok (some .utc)
  | some (.away negative hour minute) =>
    let micros := withSign negative ((hour * 60 + minute) * 60000000 : Nat)
    match Offset.ofMicros? micros with
    | some offset => .ok (some offset)
    | none => .error .badValue

/-- A date or a timestamp. -/
def timeValue (content : Text) : Except Fault Scalar :=
  match timestampParts? (dropLastBreak content) with
  | none => .error .timestampForm
  | some parts =>
    match Date.ofParts parts.year parts.month parts.day, parts.time with
    | .error _, _ => .error .badValue
    | .ok date, none => .ok (.date date)
    | .ok date, some time => do
      let offset ← zoneValue time.zone
      match Clock.ofParts time.hour time.minute time.second (fractionMicros time.fraction) with
      | .ok clock => return .time ⟨date, clock, offset⟩
      | .error _ => throw .badValue

/-- The value of a scalar by its tag. -/
def scalarValue (tag : Tag) (content : Text) : Except Fault Scalar :=
  match tag with
  | .null => .ok .null
  | .bool => (boolValue content).map .bool
  | .int => (integerValue content).map .int
  | .float => (floatValue content).map .float
  | .binary => (octetsValue content).map .bytes
  | .timestamp => timeValue content
  | .str => .ok (.text content)
  | .seq | .map | .set | .omap | .pairs => .error .wrongShape
  | .merge | .value | .unknown => .error .unknownTag

end Yaml
end ActorManifest
