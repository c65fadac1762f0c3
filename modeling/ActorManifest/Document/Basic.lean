import ActorManifest.Document.Scalar
import ActorManifest.Document.Slots
import ActorManifest.Json.Basic
import ActorManifest.Json.Writer

/-!
# Documents

A document is what a manifest or a configuration holds once its syntax is read:
scalars, lists, mappings, and the pairs and sets that only one of the two syntaxes
can write.  The same syntax can write a list or a mapping that holds itself; it is a knot
with a label, and the label alone stands where it occurs again.  A document is shown in
messages, becomes text where a setting asks for text, and is written as JSON.  All this fails
on whole numbers with too many digits, and on lists and mappings that are nested more deeply
than the machine has room for.
-/

namespace ActorManifest

/-- A value read from a text. -/
inductive Document where
  | scalar (s : Scalar)
  | list (items : List Document)
  | pair (first second : Document)
  | set (members : List Scalar)
  | mapping (entries : List (Scalar × Document))
  /-- A list or a mapping that holds itself, wherever its label occurs again. -/
  | knot (label : Nat) (body : Document)
  /-- The knot around this place that has a label. -/
  | again (label : Nat)
deriving Inhabited

namespace Document

/-- The missing value. -/
abbrev null : Document := .scalar .null

/-- A text as a document. -/
abbrev text (t : Text) : Document := .scalar (.text t)

/-- The name of the kind of a document. -/
def kindName : Document → String
  | .scalar s => s.kindName
  | .list _ => "list"
  | .pair _ _ => "tuple"
  | .set _ => "set"
  | .mapping _ => "dict"
  | .knot _ body => body.kindName
  | .again _ => "list"

/-- Whether a document counts as nothing: null, false, zero, or empty. -/
def isEmpty : Document → Bool
  | .scalar .null => true
  | .scalar (.bool b) => !b
  | .scalar (.int n) => n == 0
  | .scalar (.float x) => x.isZero
  | .scalar (.text t) => List.isEmpty t
  | .scalar (.bytes octets) => octets.isEmpty
  | .scalar _ => false
  | .list items => items.isEmpty
  | .pair _ _ => false
  | .set members => members.isEmpty
  | .mapping entries => entries.isEmpty
  | .knot _ _ => false
  | .again _ => false

mutual

/-- The document of a JSON value. -/
def ofJson : Json → Document
  | .null => .scalar .null
  | .bool b => .scalar (.bool b)
  | .int n => .scalar (.int n)
  | .float x => .scalar (.float x)
  | .text t => .scalar (.text t)
  | .array items => .list (ofJsonItems items)
  | .object fields => .mapping (ofJsonFields fields)

/-- The documents of the items of an array. -/
def ofJsonItems : List Json → List Document
  | [] => []
  | item :: items => ofJson item :: ofJsonItems items

/-- The entries of the fields of an object. -/
def ofJsonFields : List (Text × Json) → List (Scalar × Document)
  | [] => []
  | (name, value) :: fields => (.text name, ofJson value) :: ofJsonFields fields

end

/-- Why a document is not shown. -/
inductive ShowFault where
  /-- A whole number has too many digits. -/
  | longNumber
  /-- Lists and mappings are nested too deeply. -/
  | deepNesting
deriving DecidableEq

/-- A text, or the fault of a number that has none. -/
def ofText? (t : Option Text) : Except ShowFault Text :=
  t.elim (.error .longNumber) .ok

variable [Machine]

/-- The members of a set as they are shown. -/
def shownMembers (members : List Scalar) : Except ShowFault (List Text) :=
  (slotOrder members).mapM fun s => ofText? s.shown?

/-- What is shown of a list or a mapping inside itself. -/
def ellipsis : Document → Text
  | .list _ => "[...]"
  | _ => "\x7b...\x7d"

/-- What is shown of the knots around a place, by their labels. -/
abbrev Surroundings := List (Nat × Text)

mutual

/-- A document as it is shown inside some knots, with room for some levels. -/
def shownWithin : Document → (levels : Nat) → Surroundings → Except ShowFault Text
  | .scalar s, _, _ => ofText? s.shown?
  | .set [], _, _ => .ok "set()"
  | .set members, _, _ =>
    (shownMembers members).map fun parts => Text.concat ["\x7b", Text.join ", " parts, "\x7d"]
  | .knot label body, levels, around =>
    match around.lookup label with
    | some ellipsis => .ok ellipsis
    | none => shownWithin body levels ((label, body.ellipsis) :: around)
  | .again label, _, around => .ok ((around.lookup label).getD "...")
  | _, 0, _ => .error .deepNesting
  | .list items, levels + 1, around =>
    (shownItems items levels around).map fun parts =>
      Text.concat ["[", Text.join ", " parts, "]"]
  | .pair first second, levels + 1, around => do
    return Text.concat
      ["(", ← shownWithin first levels around, ", ", ← shownWithin second levels around, ")"]
  | .mapping entries, levels + 1, around =>
    (shownEntries entries levels around).map fun parts =>
      Text.concat ["\x7b", Text.join ", " parts, "\x7d"]

/-- The items of a list as they are shown inside some knots. -/
def shownItems : List Document → (levels : Nat) → Surroundings → Except ShowFault (List Text)
  | [], _, _ => .ok []
  | item :: items, levels, around => do
    return (← shownWithin item levels around) :: (← shownItems items levels around)

/-- The entries of a mapping as they are shown inside some knots. -/
def shownEntries :
    List (Scalar × Document) → (levels : Nat) → Surroundings → Except ShowFault (List Text)
  | [], _, _ => .ok []
  | (key, value) :: entries, levels, around => do
    return Text.concat [← ofText? key.shown?, ": ", ← shownWithin value levels around] ::
      (← shownEntries entries levels around)

end

/-- A document as it is shown in a message. -/
def shown (d : Document) : Except ShowFault Text :=
  d.shownWithin Machine.shownLevels []

/-- A document as text. -/
def toText : Document → Except ShowFault Text
  | .scalar s => ofText? s.text?
  | d => d.shown

/-- Why a document has no JSON form. -/
inductive JsonFault where
  /-- A value or a key is of a kind that JSON lacks. -/
  | kind
  /-- A whole number has too many digits. -/
  | longNumber
  /-- A list or a mapping holds itself. -/
  | selfReference
  /-- Lists and mappings are nested too deeply. -/
  | deepNesting
deriving DecidableEq

/-- The JSON form of a scalar. -/
def scalarToJson : Scalar → Except JsonFault Json
  | .null => .ok .null
  | .bool b => .ok (.bool b)
  | .int n => if isWritable n then .ok (.int n) else .error .longNumber
  | .float x => .ok (.float x)
  | .text t => .ok (.text t)
  | _ => .error .kind

/-- The name of a field whose key is a scalar. -/
def fieldName : Scalar → Except JsonFault Text
  | .null => .ok "null"
  | .bool b => .ok (if b then "true" else "false")
  | .int n => (integerText? n).elim (.error .longNumber) .ok
  | .float x => .ok (Json.floatLiteral x)
  | .text t => .ok t
  | _ => .error .kind

mutual

/-- The JSON form of a document with room for some levels. -/
def toJsonWithin : Document → (levels : Nat) → Except JsonFault Json
  | .scalar s, _ => scalarToJson s
  | .set _, _ => .error .kind
  | .knot _ body, levels => toJsonWithin body levels
  | .again _, _ => .error .selfReference
  | _, 0 => .error .deepNesting
  | .list items, levels + 1 => (toJsonItems items levels).map .array
  | .pair first second, levels + 1 => do
    return .array [← toJsonWithin first levels, ← toJsonWithin second levels]
  | .mapping entries, levels + 1 => (toJsonFields entries levels).map .object

/-- The JSON forms of the items of a list. -/
def toJsonItems : List Document → (levels : Nat) → Except JsonFault (List Json)
  | [], _ => .ok []
  | item :: items, levels => do
    return (← toJsonWithin item levels) :: (← toJsonItems items levels)

/-- The fields of the entries of a mapping. -/
def toJsonFields :
    List (Scalar × Document) → (levels : Nat) → Except JsonFault (List (Text × Json))
  | [], _ => .ok []
  | (key, value) :: entries, levels => do
    let name ← fieldName key
    return (name, ← toJsonWithin value levels) :: (← toJsonFields entries levels)

end

/-- The JSON form of a document. -/
def toJson (d : Document) : Except JsonFault Json :=
  d.toJsonWithin Machine.writtenLevels

end Document

/-- The value of the entry with a text key. -/
def lookup? (name : Text) (entries : List (Scalar × Document)) : Option Document :=
  entries.findSome? fun (key, value) => if key = .text name then some value else none

end ActorManifest
