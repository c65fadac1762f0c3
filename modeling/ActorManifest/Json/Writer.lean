import ActorManifest.Json.Basic

/-!
# Writing JSON

Text is written in ASCII: everything else is an escape, and a character beyond
`U+FFFF` is the escape of a pair of surrogates.  Two layouts exist.  The indented
one puts every item and field on a line of its own, two blanks deeper than what
holds it.  The canonical one has no blanks and sorts the fields of every object, so
that it depends on the fields of an object and not on their order.
-/

namespace ActorManifest
namespace Json

/-- The escape of a 16-bit unit. -/
def unitEscape (unit : Nat) : Text :=
  Text.concat ["\\u", Text.ofNatHex 4 unit]

/-- A code point as it is written between quotes. -/
def escaped (c : CodePoint) : Text :=
  let n := c.toNat
  if n = 0x22 then "\\\""
  else if n = 0x5C then "\\\\"
  else if n = 0x0A then "\\n"
  else if n = 0x0D then "\\r"
  else if n = 0x09 then "\\t"
  else if n = 0x0C then "\\f"
  else if n = 0x08 then "\\b"
  else if 0x20 ≤ n ∧ n ≤ 0x7E then [c]
  else if n < 0x10000 then unitEscape n
  else
    let offset := n - 0x10000
    unitEscape (0xD800 + offset / 0x400) ++ unitEscape (0xDC00 + offset % 0x400)

/-- A text between quotes. -/
def textLiteral (t : Text) : Text :=
  Text.concat ["\"", t.flatMap escaped, "\""]

/-- A floating-point number. -/
def floatLiteral : Binary64 → Text
  | .nan => "NaN"
  | .infinite false => "Infinity"
  | .infinite true => "-Infinity"
  | x => x.text

/-- A line break and the blanks in front of the next line. -/
def newLine (indent : Nat) : Text :=
  .char '\n' :: List.replicate indent (.char ' ')

mutual

/-- The indented form of a value that begins on a line of the given indentation. -/
def indented (indent : Nat) : Json → Text
  | .null => "null"
  | .bool true => "true"
  | .bool false => "false"
  | .int n => Text.ofInt n
  | .float x => floatLiteral x
  | .text t => textLiteral t
  | .array [] => "[]"
  | .array (item :: items) =>
    Text.concat
      ["[", newLine (indent + 2), indented (indent + 2) item, indentedItems (indent + 2) items,
       newLine indent, "]"]
  | .object [] => "\x7b\x7d"
  | .object ((name, value) :: fields) =>
    Text.concat
      ["\x7b", newLine (indent + 2), textLiteral name, ": ", indented (indent + 2) value,
       indentedFields (indent + 2) fields, newLine indent, "\x7d"]

/-- The items after the first, each on a line of its own. -/
def indentedItems (indent : Nat) : List Json → Text
  | [] => []
  | item :: items =>
    Text.concat [",", newLine indent, indented indent item, indentedItems indent items]

/-- The fields after the first, each on a line of its own. -/
def indentedFields (indent : Nat) : List (Text × Json) → Text
  | [] => []
  | (name, value) :: fields =>
    Text.concat
      [",", newLine indent, textLiteral name, ": ", indented indent value,
       indentedFields indent fields]

end

mutual

/-- The form without blanks. -/
def compact : Json → Text
  | .null => "null"
  | .bool true => "true"
  | .bool false => "false"
  | .int n => Text.ofInt n
  | .float x => floatLiteral x
  | .text t => textLiteral t
  | .array [] => "[]"
  | .array (item :: items) => Text.concat ["[", compact item, compactItems items, "]"]
  | .object [] => "\x7b\x7d"
  | .object ((name, value) :: fields) =>
    Text.concat
      ["\x7b", textLiteral name, ":", compact value, compactFields fields, "\x7d"]

/-- The items after the first. -/
def compactItems : List Json → Text
  | [] => []
  | item :: items => Text.concat [",", compact item, compactItems items]

/-- The fields after the first. -/
def compactFields : List (Text × Json) → Text
  | [] => []
  | (name, value) :: fields =>
    Text.concat [",", textLiteral name, ":", compact value, compactFields fields]

end

mutual

/-- The value with the fields of every object in the order of their names. -/
def sorted : Json → Json
  | .array items => .array (sortedItems items)
  | .object fields => .object ((sortedFields fields).mergeSort fun a b => Text.le a.1 b.1)
  | value => value

/-- The items with their own objects sorted. -/
def sortedItems : List Json → List Json
  | [] => []
  | item :: items => sorted item :: sortedItems items

/-- The fields in their order, with their own objects sorted. -/
def sortedFields : List (Text × Json) → List (Text × Json)
  | [] => []
  | (name, value) :: fields => (name, sorted value) :: sortedFields fields

end

/-- The canonical form: sorted and without blanks. -/
def canonical (value : Json) : Text :=
  compact (sorted value)

end Json
end ActorManifest
