import ActorManifest.Json.Basic
import ActorManifest.Yaml.Tag

/-!
# Writing YAML

Mappings and sequences are written in blocks, two columns deeper than what holds them; a
sequence that is the value of a key begins in the column of the key.  Text is plain where
that reads back as the same text, single-quoted where it is printable, and
double-quoted otherwise.  A line that is longer than eighty columns is broken at the next
place where a break reads back as what stood there.
-/

namespace ActorManifest
namespace Yaml
namespace Writer

/-- The column behind which a line is broken. -/
def width : Nat := 80

/-- A number of spaces. -/
def spaces (count : Nat) : Text :=
  List.replicate count (.char ' ')

/-- The start of a new line at a column. -/
def newLine (column : Nat) : Text :=
  .char '\n' :: spaces column

/-- The ways of writing a text. -/
inductive Style where
  | plain
  | single
  | double
deriving DecidableEq

/-- Whether a code point is a line feed or printable ASCII. -/
def isSimple (c : CodePoint) : Bool :=
  let n := c.toNat
  n == 0x0A || (0x20 ≤ n && n ≤ 0x7E)

/-- Whether a code point is a line feed. -/
def isFeed (c : CodePoint) : Bool :=
  c == .char '\n'

/-- Whether a code point is a space. -/
def isSpace (c : CodePoint) : Bool :=
  c == .char ' '

/-- Whether a text has two neighbours that satisfy `p` and `q`. -/
def hasPair (p q : CodePoint → Bool) (t : Text) : Bool :=
  (t.zip t.tail).any fun (a, b) => p a && q b

/-- Whether the text behind a mark ends here or goes on with a space or a line feed. -/
def atGap (t : Text) : Bool :=
  t.head?.all fun c => isSpace c || isFeed c

/-- The signs with which no plain text begins. -/
def leadingSigns : List CodePoint :=
  "#,[]\x7b\x7d&*!|>'\"%@\x60".toList.map .char

/-- The signs with which no plain text begins if a gap follows. -/
def leadingMarks : List CodePoint :=
  "?:-".toList.map .char

/-- Whether the beginning of a text would be taken for a mark. -/
def beginsWithMark (t : Text) : Bool :=
  (Text.after? "---" t).isSome || (Text.after? "..." t).isSome ||
    match t with
    | [] => false
    | c :: rest => leadingSigns.contains c || (leadingMarks.contains c && atGap rest)

/-- Whether a colon before a gap, or a gap before a number sign, stands behind the first sign
of a text. -/
def holdsMark : Text → Bool
  | [] => false
  | c :: rest =>
    (rest.head? == some (.char ':') && atGap (rest.drop 1)) ||
      (rest.head? == some (.char '#') && (isSpace c || isFeed c)) || holdsMark rest

/-- Whether a text may be written without quotes. -/
def allowsPlain (t : Text) : Bool :=
  Tag.ofPlain t == .str && t.all (fun c => isSimple c && !isFeed c) &&
    !t.head?.any isSpace && !t.getLast?.any isSpace && !beginsWithMark t && !holdsMark t

/-- Whether a text may be written between single quotes. -/
def allowsSingle (t : Text) : Bool :=
  t.all isSimple && !hasPair isFeed isSpace t && !hasPair isSpace isFeed t

/-- The way in which a text is written. -/
def styleOf (t : Text) : Style :=
  if allowsPlain t then .plain else if allowsSingle t then .single else .double

/-- Whether the line is to be broken instead of a space: it is too long, and no other space
stands beside this one. -/
def breaksHere (split afterSpace : Bool) (column : Nat) (rest : Text) : Bool :=
  split && decide (width < column) && !afterSpace && !rest.head?.any isSpace

/-- A plain text from a column on, with further lines at an indentation. -/
def plainFrom (split : Bool) (indent : Nat) (column : Nat) (afterSpace : Bool) : Text → Text
  | [] => []
  | c :: rest =>
    if isSpace c then
      if breaksHere split afterSpace column rest then
        newLine indent ++ plainFrom split indent indent true rest
      else c :: plainFrom split indent (column + 1) true rest
    else c :: plainFrom split indent (column + 1) false rest

/-- A single-quoted text from a column on, without its quotes.  The flags tell whether the
text begins here and whether a space or a line feed came before. -/
def singleFrom (split : Bool) (indent : Nat) (column : Nat) (first afterSpace afterFeed : Bool) :
    Text → Text
  | [] => []
  | c :: rest =>
    if isFeed c then
      let feeds : Text := if afterFeed then [c] else [c, c]
      let margin := if rest.head?.any isFeed then [] else spaces indent
      feeds ++ margin ++ singleFrom split indent indent false false true rest
    else if isSpace c then
      if breaksHere split afterSpace column rest && !first && !rest.isEmpty then
        newLine indent ++ singleFrom split indent indent false true false rest
      else c :: singleFrom split indent (column + 1) false true false rest
    else if c = .char '\x27' then
      c :: c :: singleFrom split indent (column + 2) false false false rest
    else c :: singleFrom split indent (column + 1) false false false rest

/-- The escapes that are one sign long. -/
def signEscape? (c : CodePoint) : Option Char :=
  match c.toNat with
  | 0x00 => some '0'
  | 0x07 => some 'a'
  | 0x08 => some 'b'
  | 0x09 => some 't'
  | 0x0A => some 'n'
  | 0x0B => some 'v'
  | 0x0C => some 'f'
  | 0x0D => some 'r'
  | 0x1B => some 'e'
  | 0x22 => some '"'
  | 0x5C => some '\\'
  | 0x85 => some 'N'
  | 0xA0 => some '_'
  | 0x2028 => some 'L'
  | 0x2029 => some 'P'
  | _ => none

/-- A number of hexadecimal digits with capital letters. -/
def hexDigits (count n : Nat) : Text :=
  (Text.ofNatHex count n).map fun c =>
    match c with
    | .char p => .char p.toUpper
    | c => c

/-- The escape of a code point that has no place between double quotes. -/
def escape? (c : CodePoint) : Option Text :=
  let n := c.toNat
  match signEscape? c with
  | some sign => some [.char '\\', .char sign]
  | none =>
    if 0x20 ≤ n ∧ n ≤ 0x7E then none
    else if n ≤ 0xFF then some (Text.concat ["\\x", hexDigits 2 n])
    else if n ≤ 0xFFFF then some (Text.concat ["\\u", hexDigits 4 n])
    else some (Text.concat ["\\U", hexDigits 8 n])

/-- The end of a line inside double quotes and the start of the next one, where a space that
comes next is marked. -/
def brokenLine (indent : Nat) (next : Option CodePoint) : Text × Nat :=
  let line := .char '\\' :: newLine indent
  if next.any isSpace then (line ++ [.char '\\'], indent + 1) else (line, indent)

/-- A double-quoted text from a column on, without its quotes.  The flags tell whether the text
begins here and whether an escape came before. -/
def doubleFrom (split : Bool) (indent : Nat) (column : Nat) (first afterEscape : Bool) :
    Text → Text
  | [] => []
  | c :: rest =>
    let inside := split && !first && !rest.isEmpty
    match escape? c with
    | some escape =>
      let column := column + escape.length
      if inside && decide (width + 1 < column) then
        let (line, column) := brokenLine indent rest.head?
        escape ++ line ++ doubleFrom split indent column false true rest
      else escape ++ doubleFrom split indent column false true rest
    | none =>
      if inside && (isSpace c || afterEscape) && decide (width < column) then
        let (line, column) := brokenLine indent (some c)
        line ++ c :: doubleFrom split indent (column + 1) false false rest
      else c :: doubleFrom split indent (column + 1) false false rest

/-- A text from a column on, with further lines at an indentation. -/
def textFrom (split : Bool) (indent column : Nat) (t : Text) : Text :=
  match styleOf t with
  | .plain => plainFrom split indent column false t
  | .single =>
    Text.concat ["'", singleFrom split indent (column + 1) true false false t, "'"]
  | .double =>
    Text.concat ["\"", doubleFrom split indent (column + 1) true false t, "\""]

/-- A floating-point number. -/
def floatText : Binary64 → Text
  | .nan => ".nan"
  | .infinite false => ".inf"
  | .infinite true => "-.inf"
  | x =>
    let t := x.text
    if t.contains (.char '.') then t
    else
      match Text.cutAt? (.char 'e') t with
      | none => t
      | some (mantissa, exponent) => Text.concat [mantissa, ".0e", exponent]

/-- A value without parts, or an empty collection, from a column on.  Collections that are not
empty have no such form. -/
def leaf? (indent column : Nat) : Json → Option Text
  | .null => some "null"
  | .bool true => some "true"
  | .bool false => some "false"
  | .int n => some (Text.ofInt n)
  | .float x => some (floatText x)
  | .text t => some (textFrom true indent column t)
  | .array [] => some "[]"
  | .object [] => some "\x7b\x7d"
  | .array (_ :: _) => none
  | .object (_ :: _) => none

/-- How long a key may be to stand before its colon on one line. -/
def maxKeyLength : Nat := 122

/-- Whether a key stands before its colon on one line. -/
def isSimpleKey (t : Text) : Bool :=
  !t.isEmpty && decide (t.length ≤ maxKeyLength) &&
    !t.any fun c => isFeed c || c.toNat == 0x85 || c.toNat == 0x2028 || c.toNat == 0x2029

mutual

/-- A value behind the colon of a key that stands at `indent`; the colon ends at `column`. -/
def afterColon (indent column : Nat) : Json → Text
  | .array (item :: items) =>
    Text.concat [newLine indent, "-", afterDash indent item, moreItems indent items]
  | .object (field :: fields) =>
    newLine (indent + 2) ++ firstField (indent + 2) field ++ moreFields (indent + 2) fields
  | value => .char ' ' :: (leaf? (indent + 2) (column + 1) value).getD []

/-- A value behind a mark that stands at `indent`; what it holds begins on the same line. -/
def afterDash (indent : Nat) : Json → Text
  | .array (item :: items) =>
    Text.concat [" -", afterDash (indent + 2) item, moreItems (indent + 2) items]
  | .object (field :: fields) =>
    .char ' ' :: firstField (indent + 2) field ++ moreFields (indent + 2) fields
  | value => .char ' ' :: (leaf? (indent + 2) (indent + 2) value).getD []

/-- A field whose line has begun. -/
def firstField (indent : Nat) : Text × Json → Text
  | (name, value) =>
    if isSimpleKey name then
      let key := textFrom false indent indent name
      Text.concat [key, ":", afterColon indent (indent + key.length + 1) value]
    else
      Text.concat
        ["? ", textFrom true (indent + 2) (indent + 2) name, newLine indent, ":",
         afterDash indent value]

/-- The items after the first, each on a line of its own. -/
def moreItems (indent : Nat) : List Json → Text
  | [] => []
  | item :: items =>
    Text.concat [newLine indent, "-", afterDash indent item, moreItems indent items]

/-- The fields after the first, each on a line of its own. -/
def moreFields (indent : Nat) : List (Text × Json) → Text
  | [] => []
  | field :: fields => newLine indent ++ firstField indent field ++ moreFields indent fields

end

end Writer

/-- The YAML text of a mapping. -/
def write : List (Text × Json) → Text
  | [] => "\x7b\x7d\n"
  | field :: fields =>
    Text.concat [Writer.firstField 0 field, Writer.moreFields 0 fields, "\n"]

end Yaml
end ActorManifest
