import ActorManifest.Entries
import ActorManifest.Number.Decimal

/-!
# JSON values

A value of the JSON data model.  Whole numbers and floating-point numbers are kept
apart, and the fields of an object keep their order.  Text may hold lone surrogates,
which escapes can name.
-/

namespace ActorManifest

/-- A JSON value. -/
inductive Json where
  | null
  | bool (b : Bool)
  | int (n : Int)
  | float (x : Binary64)
  | text (t : Text)
  | array (items : List Json)
  | object (fields : List (Text × Json))
deriving Inhabited

namespace Json

/-- A text or null. -/
def ofText? : Option Text → Json
  | none => .null
  | some t => .text t

/-- A field. -/
def field (name : String) (value : Json) : List (Text × Json) :=
  [(name, value)]

/-- A field that is left out when its value is absent. -/
def field? {α : Type} (name : String) (encode : α → Json) : Option α → List (Text × Json)
  | none => []
  | some value => field name (encode value)

mutual

/-- The number of levels of a value; a value that holds no other has none. -/
def depth : Json → Nat
  | .array items => depthOfItems items + 1
  | .object fields => depthOfFields fields + 1
  | _ => 0

/-- The greatest depth among the items of an array. -/
def depthOfItems : List Json → Nat
  | [] => 0
  | item :: items => max item.depth (depthOfItems items)

/-- The greatest depth among the values of an object. -/
def depthOfFields : List (Text × Json) → Nat
  | [] => 0
  | (_, value) :: fields => max value.depth (depthOfFields fields)

end

mutual

/-- Whether every integer in a value satisfies `p`. -/
def allIntegers (p : Int → Bool) : Json → Bool
  | .int n => p n
  | .array items => allIntegersOfItems p items
  | .object fields => allIntegersOfFields p fields
  | _ => true

/-- Whether every integer in the items of an array satisfies `p`. -/
def allIntegersOfItems (p : Int → Bool) : List Json → Bool
  | [] => true
  | item :: items => item.allIntegers p && allIntegersOfItems p items

/-- Whether every integer in the values of an object satisfies `p`. -/
def allIntegersOfFields (p : Int → Bool) : List (Text × Json) → Bool
  | [] => true
  | (_, value) :: fields => value.allIntegers p && allIntegersOfFields p fields

end

end Json
end ActorManifest
