import ActorManifest.Yaml.Token.Block
import ActorManifest.Yaml.Token.Plain

/-!
# Cutting a text into tokens

Tokens are cut from the text one after another.  A colon makes a key of what stands
before it on its line, so every token that may turn out to begin a key leaves a slot in
front of it, which a colon fills and which is dropped otherwise.  Indentation opens and
closes block collections; it counts for nothing inside a flow collection.
-/

namespace ActorManifest
namespace Yaml

/-- A token, or the slot in front of a token that may begin a key. -/
inductive Piece where
  | token (t : Token)
  | slot (number : Nat)

/-- A place where a key may have begun. -/
structure KeyStart where
  slot : Nat
  required : Bool
  index : Nat
  line : Nat
  column : Nat

/-- The state between two tokens. -/
structure Lexer where
  cursor : Cursor
  /-- How many flow collections are open. -/
  flow : Nat
  /-- The indentation of the innermost block collection. -/
  indent : Int
  /-- The indentations around it, the innermost first. -/
  outer : List Int
  /-- Whether a key may begin here. -/
  keyAllowed : Bool
  /-- The places where a key may have begun, by the number of open flow collections. -/
  keys : List (Nat × KeyStart)
  /-- The pieces cut so far, the last first. -/
  pieces : List Piece
  /-- The number of the next slot. -/
  slots : Nat

namespace Lexer

/-- The state at the start of a text. -/
def start (t : Text) : Lexer :=
  ⟨.start t, 0, -1, [], true, [], [], 0⟩

/-- The state after a token that ends at a place. -/
def emit (s : Lexer) (t : Token) (after : Cursor) : Lexer :=
  { s with pieces := .token t :: s.pieces, cursor := after }

/-- The state after a token that takes no room. -/
def emitHere (s : Lexer) (t : Token) : Lexer :=
  s.emit t s.cursor

/-- The state after a token that takes a number of code points. -/
def emitOver (s : Lexer) (t : Token) (count : Nat) : Lexer :=
  s.emit t (s.cursor.skip count)

/-- How far a key may be from its colon. -/
def maxKeyLength : Nat := 1024

/-- Whether a place is too far back for a colon here to make a key of it. -/
def isStale (s : Lexer) (k : KeyStart) : Bool :=
  k.line != s.cursor.line || s.cursor.index - k.index > maxKeyLength

/-- The state without the places that are too far back. -/
def dropStale (s : Lexer) : Except Fault Lexer :=
  if s.keys.any fun (_, k) => s.isStale k && k.required then .error .missingColon
  else .ok { s with keys := s.keys.filter fun (_, k) => !s.isStale k }

/-- The place where a key may have begun in the innermost flow collection. -/
def currentKey? (s : Lexer) : Option KeyStart :=
  (s.keys.find? fun (level, _) => level == s.flow).map Prod.snd

/-- The state without the place in the innermost flow collection. -/
def dropKey (s : Lexer) : Except Fault Lexer :=
  if s.currentKey?.any KeyStart.required then .error .missingColon
  else .ok { s with keys := s.keys.filter fun (level, _) => level != s.flow }

/-- The state in which a key may begin here, if one is allowed. -/
def saveKey (s : Lexer) : Except Fault Lexer :=
  if s.keyAllowed then do
    let s ← s.dropKey
    let c := s.cursor
    let required := s.flow == 0 && s.indent == (c.column : Int)
    let key : KeyStart := ⟨s.slots, required, c.index, c.line, c.column⟩
    return { s with
      keys := (s.flow, key) :: s.keys, pieces := .slot s.slots :: s.pieces,
      slots := s.slots + 1 }
  else .ok s

/-- The pieces with tokens put into a slot. -/
def fill (slot : Nat) (tokens : List Token) : List Piece → List Piece
  | [] => []
  | .slot n :: pieces =>
    if n = slot then tokens.reverse.map .token ++ pieces
    else .slot n :: fill slot tokens pieces
  | .token t :: pieces => .token t :: fill slot tokens pieces

/-- The tokens among the pieces, in order. -/
def tokens (s : Lexer) : List Token :=
  s.pieces.reverse.filterMap fun
    | .token t => some t
    | .slot _ => none

/-- The tokens in front of the first one that may still turn out to begin a key. -/
def settled (s : Lexer) : List Token :=
  let isOpen (number : Nat) := s.keys.any fun (_, k) => k.slot == number
  (s.pieces.reverse.takeWhile fun
    | .token _ => true
    | .slot number => !isOpen number).filterMap fun
      | .token t => some t
      | .slot _ => none

/-- The state after closing the block collections that are indented beyond a column. -/
def closeBlocks (column : Int) (s : Lexer) : Lexer :=
  if s.flow = 0 then close s.outer s else s
where
  /-- Closes as many as there are indentations around them. -/
  close : List Int → Lexer → Lexer
    | [], s => s
    | around :: outer, s =>
      if column < s.indent then
        close outer ({ s with indent := around, outer }.emitHere .blockEnd)
      else s

/-- Whether a column is beyond the indentation, so that a block collection begins there. -/
def beginsBlock (s : Lexer) (column : Nat) : Bool :=
  s.flow == 0 && decide (s.indent < (column : Int))

/-- The state with a block collection opened at a column. -/
def indentTo (s : Lexer) (column : Nat) : Lexer :=
  { s with indent := column, outer := s.indent :: s.outer }

/-- The state with a block collection opened here, if one begins here. -/
def openBlock (t : Token) (s : Lexer) : Lexer :=
  let column := s.cursor.column
  if s.beginsBlock column then (s.indentTo column).emitHere t else s

/-- The state at the next token: behind spaces, comments and line breaks. -/
def toNextToken : (fuel : Nat) → Lexer → Lexer
  | 0, s => s
  | fuel + 1, s =>
    let c := s.cursor.skipSpaces.skipComment
    if c.rest.head?.any isBreak then
      toNextToken fuel { s with cursor := c.next, keyAllowed := s.keyAllowed || s.flow == 0 }
    else { s with cursor := c }

/-- The state after a mark around a document. -/
def documentMark (t : Token) (s : Lexer) : Except Fault Lexer := do
  let s ← (s.closeBlocks (-1)).dropKey
  return { s with keyAllowed := false }.emitOver t 3

/-- The state after a directive. -/
def directiveLine (s : Lexer) : Except Fault Lexer := do
  let s ← (s.closeBlocks (-1)).dropKey
  let (t, after) ← directive s.cursor
  return { s with keyAllowed := false }.emit t after

/-- The state after the opening bracket of a flow collection. -/
def openFlow (t : Token) (s : Lexer) : Except Fault Lexer := do
  let s ← s.saveKey
  return { s with flow := s.flow + 1, keyAllowed := true }.emitOver t 1

/-- The state after the closing bracket of a flow collection.  One that closes nothing is a
token like any other, and no place accepts it. -/
def closeFlow (t : Token) (s : Lexer) : Except Fault Lexer := do
  let s ← s.dropKey
  return { s with flow := s.flow - 1, keyAllowed := false }.emitOver t 1

/-- The state after a comma. -/
def comma (s : Lexer) : Except Fault Lexer := do
  let s ← s.dropKey
  return { s with keyAllowed := true }.emitOver .flowEntry 1

/-- The state after a mark that may open a block collection. -/
def blockMark (opening mark : Token) (allowed : Bool) (s : Lexer) : Except Fault Lexer := do
  if s.flow = 0 ∧ s.keyAllowed = false then throw .misplaced
  let s := { s.openBlock opening with keyAllowed := allowed }
  let s ← s.dropKey
  return s.emitOver mark 1

/-- The state after a colon.  If a key may have begun, it did, and it may open a mapping. -/
def colon (s : Lexer) : Except Fault Lexer :=
  match s.currentKey? with
  | some k =>
    let s := { s with
      keys := s.keys.filter (fun (level, _) => level != s.flow), keyAllowed := false }
    if s.beginsBlock k.column then
      let s := s.indentTo k.column
      .ok ({ s with pieces := fill k.slot [.blockMappingStart, .key] s.pieces }.emitOver .value 1)
    else .ok ({ s with pieces := fill k.slot [.key] s.pieces }.emitOver .value 1)
  | none => s.blockMark .blockMappingStart .value (s.flow == 0)

/-- The state after a token that may begin a key and that no key may follow. -/
def keyToken (read : Cursor → Except Fault (Token × Cursor)) (s : Lexer) :
    Except Fault Lexer := do
  let s ← s.saveKey
  let (t, after) ← read s.cursor
  return { s with keyAllowed := false }.emit t after

/-- The state after a block of text. -/
def blockText (folded : Bool) (s : Lexer) : Except Fault Lexer := do
  let s ← { s with keyAllowed := true }.dropKey
  let (content, after) ← blockScalar folded s.indent s.cursor
  return s.emit (.scalar false content) after

/-- The state after a plain scalar. -/
def plainText (s : Lexer) : Except Fault Lexer := do
  let s ← s.saveKey
  let (content, crossed, after) := plainScalar (s.flow != 0) s.indent s.cursor
  return { s with keyAllowed := crossed }.emit (.scalar true content) after

/-- The signs with which no plain scalar begins. -/
def indicators : List CodePoint :=
  "-?:,[]\x7b\x7d#&*!|>'\"%@\x60".toList.map .char

/-- Whether a plain scalar begins at a code point that `rest` follows. -/
def beginsPlain (s : Lexer) (p : CodePoint) (rest : Text) : Bool :=
  if indicators.contains p || p == .char '\t' then
    !atGap rest &&
      (p == .char '-' || (s.flow == 0 && (p == .char '?' || p == .char ':')))
  else true

/-- The state after the token at a place, whose first code point is `p`. -/
def token (s : Lexer) (p : CodePoint) (rest : Text) : Except Fault Lexer :=
  let here := p :: rest
  let lineStart := s.cursor.column == 0
  let gapOrFlow := s.flow != 0 || atGap rest
  if p = .char '%' ∧ lineStart = true then s.directiveLine
  else if p = .char '-' ∧ lineStart = true ∧ atDocumentMark here then
    s.documentMark .documentStart
  else if p = .char '.' ∧ lineStart = true ∧ atDocumentMark here then
    s.documentMark .documentEnd
  else if p = .char '[' then s.openFlow .flowSequenceStart
  else if p = .char '\x7b' then s.openFlow .flowMappingStart
  else if p = .char ']' then s.closeFlow .flowSequenceEnd
  else if p = .char '\x7d' then s.closeFlow .flowMappingEnd
  else if p = .char ',' then s.comma
  else if p = .char '-' ∧ atGap rest then s.blockMark .blockSequenceStart .blockEntry true
  else if p = .char '?' ∧ gapOrFlow = true then
    s.blockMark .blockMappingStart .key (s.flow == 0)
  else if p = .char ':' ∧ gapOrFlow = true then s.colon
  else if p = .char '*' then
    s.keyToken fun c => (anchorName c).map fun (name, c) => (.alias name, c)
  else if p = .char '&' then
    s.keyToken fun c => (anchorName c).map fun (name, c) => (.anchor name, c)
  else if p = .char '!' then s.keyToken tag
  else if p = .char '|' ∧ s.flow = 0 then s.blockText false
  else if p = .char '>' ∧ s.flow = 0 then s.blockText true
  else if p = .char '\x27' then
    s.keyToken fun c => (quotedScalar false c).map fun (t, c) => (.scalar false t, c)
  else if p = .char '"' then
    s.keyToken fun c => (quotedScalar true c).map fun (t, c) => (.scalar false t, c)
  else if s.beginsPlain p rest then s.plainText
  else .error .noToken

/-- The state at the end of the text. -/
def finish (s : Lexer) : Except Fault Lexer :=
  (s.closeBlocks (-1)).dropKey

/-- The state after the next token, or none at the end of the text. -/
def step (s : Lexer) : Except Fault (Option Lexer) := do
  let s ← (s.toNextToken (s.cursor.rest.length + 1)).dropStale
  let s := s.closeBlocks s.cursor.column
  match s.cursor.rest with
  | [] => return none
  | p :: rest => return some (← s.token p rest)

/-- The tokens up to the end of the text or up to a fault, and the fault.  Before a fault only
settled tokens count: those of `s`, or, if a key without a colon is left behind right after
its token, those of the state `earlier` in front of that token. -/
def run : (fuel : Nat) → (earlier s : Lexer) → List Token × Option Fault
  | 0, _, s => (s.tokens, none)
  | fuel + 1, earlier, s =>
    match s.dropStale with
    | .error fault => (earlier.settled, some fault)
    | .ok s =>
      match s.step with
      | .error fault => (s.settled, some fault)
      | .ok (some next) => run fuel s next
      | .ok none =>
        match s.finish with
        | .error fault => (s.settled, some fault)
        | .ok s => (s.tokens, none)

end Lexer

/-- Whether a code point may stand in a YAML text. -/
def isAllowed (c : CodePoint) : Bool :=
  let n := c.toNat
  n == 0x9 || n == 0xA || n == 0xD || (0x20 ≤ n && n ≤ 0x7E) || n == 0x85 ||
    (0xA0 ≤ n && n ≤ 0xD7FF) || (0xE000 ≤ n && n ≤ 0xFFFD) || 0x10000 ≤ n

/-- The text with its line breaks as line feeds. -/
def unifyBreaks (t : Text) : Text :=
  (Text.unifyLineBreaks t).map fun c => if c = .char '\u0085' then .char '\n' else c

/-- The text without the byte order mark at its start. -/
def dropMark : Text → Text
  | .char '\uFEFF' :: rest => rest
  | t => t

/-- The tokens of a text up to its end or up to a fault, and the fault. -/
def tokensOf (t : Text) : List Token × Option Fault :=
  let t := dropMark (unifyBreaks t)
  let start := Lexer.start t
  Lexer.run (t.length + 1) start start

end Yaml
end ActorManifest
