import ActorManifest.Document.Basic

/-!
# The order of keys

Keys of one kind have an order: numbers by value, texts by code points, octets by octet,
dates and timestamps by time.  Keys of different kinds have none, and neither have
timestamps with and without an offset.  Pairs are ordered by the first part that differs.
-/

namespace ActorManifest
namespace Scalar

/-- The fraction that a number equals.  An infinite number is a fraction over zero. -/
def fraction? : Scalar → Option (Int × Nat)
  | .bool b => some (if b then 1 else 0, 1)
  | .int n => some (n, 1)
  | .float .nan => some (0, 0)
  | .float (.infinite negative) => some (if negative then -1 else 1, 0)
  | .float (.finite negative mantissa exponent) =>
    let (numerator, denominator) := Binary64.ratio mantissa exponent
    some (Binary64.signed negative numerator, denominator)
  | _ => none

/-- Whether one fraction is below another. -/
def fractionBelow (a b : Int × Nat) : Bool :=
  if a.2 = 0 ∧ b.2 = 0 then decide (a.1 < b.1) else decide (a.1 * b.2 < b.1 * a.2)

/-- Whether one list of octets comes before another. -/
def octetsBelow : List UInt8 → List UInt8 → Bool
  | _, [] => false
  | [], _ :: _ => true
  | a :: s, b :: t => if a = b then octetsBelow s t else decide (a < b)

/-- Whether one scalar comes before another, unless they have no order. -/
def below? (a b : Scalar) : Option Bool :=
  match a.fraction?, b.fraction? with
  | some x, some y => some (fractionBelow x y)
  | none, none =>
    match a, b with
    | .text s, .text t => some (!Text.le t s)
    | .bytes s, .bytes t => some (octetsBelow s t)
    | .date d, .date e => some (decide (d.dayNumber < e.dayNumber))
    | .time s, .time t =>
      if s.offset.isSome = t.offset.isSome then some (decide (s.instant < t.instant)) else none
    | _, _ => none
  | _, _ => none

end Scalar

namespace Document

/-- Whether a document can be a key: a scalar or a pair of keys. -/
def isKey : Document → Bool
  | .scalar _ => true
  | .pair first second => first.isKey && second.isKey
  | _ => false

/-- Whether two keys are the same. -/
def sameKey : Document → Document → Bool
  | .scalar a, .scalar b => a.sameKey b
  | .pair a b, .pair c d => a.sameKey c && b.sameKey d
  | _, _ => false

/-- Whether one key comes before another, unless they have no order. -/
def below? : Document → Document → Option Bool
  | .scalar a, .scalar b => a.below? b
  | .pair a b, .pair c d =>
    if !a.sameKey c then a.below? c else if !b.sameKey d then b.below? d else some false
  | _, _ => none

/-- The keys with one more at its place in their order. -/
def insertKey? (key : Document) : List Document → Option (List Document)
  | [] => some [key]
  | k :: keys => do
    if ← key.below? k then return key :: k :: keys
    else return k :: (← insertKey? key keys)

/-- The keys in order, unless two of them have no order. -/
def sortKeys? (keys : List Document) : Option (List Document) :=
  keys.foldlM (fun sorted key => insertKey? key sorted) []

/-- The keys without those that are the same as one before. -/
def distinctKeys (keys : List Document) : List Document :=
  keys.foldl (fun found key => if found.any (sameKey key) then found else found ++ [key]) []

end Document
end ActorManifest
