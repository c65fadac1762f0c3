import ActorManifest.Machine
import ActorManifest.Yaml.Fault
import ActorManifest.Yaml.Node
import ActorManifest.Yaml.Token

/-!
# Putting tokens together

The tokens of a text are put together to the node of its only document.  The tokens may
end in a fault, which counts only once all tokens before it are used.
-/

namespace ActorManifest
namespace Yaml

/-- What is left of the tokens, and the names known at this place. -/
structure Assembly where
  tokens : List Token
  /-- The fault at the end of the tokens. -/
  ending : Option Fault
  /-- The declared handles of tags with their stems. -/
  handles : List (Text × Text)
  /-- The anchors so far. -/
  anchors : List Text

variable [Machine]

namespace Assembly

/-- The handles that need no declaration. -/
def defaultHandles : List (Text × Text) :=
  [("!", "!"), ("!!", tagStem)]

/-- The start of the tokens of a text. -/
def start (tokens : List Token) (ending : Option Fault) : Assembly :=
  ⟨tokens, ending, defaultHandles, []⟩

/-- The next token, or none at the end of the text. -/
def peek (s : Assembly) : Except Fault (Option Token) :=
  match s.tokens with
  | t :: _ => .ok (some t)
  | [] =>
    match s.ending with
    | some fault => .error fault
    | none => .ok none

/-- The assembly after the next token. -/
def drop (s : Assembly) : Assembly :=
  { s with tokens := s.tokens.tail }

/-- The stem of a handle. -/
def stem? (s : Assembly) (handle : Text) : Option Text :=
  (s.handles.find? fun entry => entry.1 == handle).map Prod.snd

/-- The name of a tag as it is written. -/
def tagName (s : Assembly) : Option (Option Text × Text) → Except Fault (Option Text)
  | none => .ok none
  | some (none, suffix) => .ok (some suffix)
  | some (some handle, suffix) =>
    match s.stem? handle with
    | some stem => .ok (some (stem ++ suffix))
    | none => .error .undefinedHandle

/-- What is written in front of a node. -/
structure Properties where
  anchor : Option Text
  tag : Option (Option Text × Text)

/-- The anchor in front of a node, if there is one. -/
def readAnchor (s : Assembly) : Except Fault (Option Text × Assembly) := do
  match ← s.peek with
  | some (.anchor name) => return (some name, s.drop)
  | _ => return (none, s)

/-- The tag in front of a node, if there is one. -/
def readTag (s : Assembly) : Except Fault (Option (Option Text × Text) × Assembly) := do
  match ← s.peek with
  | some (.tag handle suffix) => return (some (handle, suffix), s.drop)
  | _ => return (none, s)

/-- The anchor and the tag in front of a node, in either order. -/
def readProperties (s : Assembly) : Except Fault (Properties × Assembly) := do
  let (first, s) ← s.readAnchor
  let (tag, s) ← s.readTag
  let (second, s) ← if first.isNone && tag.isSome then s.readAnchor else pure (none, s)
  return (⟨first <|> second, tag⟩, s)

/-- The reference to the node that an anchor before this place names. -/
def refer (s : Assembly) (name : Text) : Except Fault Node :=
  if s.anchors.contains name then .ok (.reference name) else .error .undefinedAlias

/-- The assembly with the anchor of a node that begins here. -/
def withAnchor (s : Assembly) : Option Text → Except Fault Assembly
  | none => .ok s
  | some name =>
    if s.anchors.contains name then .error .repeatedAnchor
    else .ok { s with anchors := name :: s.anchors }

/-- A scalar with its anchor and the tag written in front of it. -/
def scalar (s : Assembly) (anchor tag : Option Text) (plain : Bool) (content : Text) :
    Except Fault (Node × Assembly) := do
  let s ← s.withAnchor anchor
  return (.scalar anchor (Node.scalarTag tag plain content) content, s)

/-- The collections that may stand at a place. -/
inductive Context where
  | flow
  | block
  /-- A block collection, or a sequence without indentation of its own. -/
  | indentless
deriving DecidableEq

/-- The ways of writing a collection. -/
inductive Layout where
  | indentlessSequence
  | blockSequence
  | blockMapping
  | flowSequence
  | flowMapping
deriving DecidableEq

/-- The layout of the collection that begins with a token. -/
def layout? (context : Context) : Option Token → Option Layout
  | some .flowSequenceStart => some .flowSequence
  | some .flowMappingStart => some .flowMapping
  | some .blockSequenceStart => if context = .flow then none else some .blockSequence
  | some .blockMappingStart => if context = .flow then none else some .blockMapping
  | some .blockEntry => if context = .indentless then some .indentlessSequence else none
  | _ => none

/-- What a collection holds. -/
inductive Body where
  | sequence (items : List Node)
  | mapping (entries : List (Node × Node))

/-- The node of a collection with its anchor and the tag written in front of it. -/
def Body.node (anchor tag : Option Text) : Body → Node
  | .sequence items => .sequence anchor (Node.collectionTag .seq tag) items
  | .mapping entries => .mapping anchor (Node.collectionTag .map tag) entries

/-- The node where only properties are written. -/
def bare (s : Assembly) (anchor tag : Option Text) : Except Fault (Node × Assembly) :=
  if anchor.isNone && tag.isNone then .error .unexpected
  else s.scalar anchor tag true []

/-- Whether the next token is one of those in front of which a node is missing. -/
def isMissingBefore (s : Assembly) (stops : List Token) : Except Fault Bool := do
  return (← s.peek).any stops.contains

/-- The assembly after the comma between two entries; the first entry has none. -/
def dropComma (s : Assembly) (first : Bool) : Except Fault Assembly := do
  if first then return s
  match ← s.peek with
  | some .flowEntry => return s.drop
  | _ => throw .unexpected

/-- The tokens after a missing key or value of a block mapping. -/
def blockStops : List Token := [.key, .value, .blockEnd]

mutual

/-- The node at the start of the tokens, where `depth` more levels may be opened. -/
def node (context : Context) (depth : Nat) :
    (fuel : Nat) → Assembly → Except Fault (Node × Assembly)
  | 0, _ => .error .deepNesting
  | fuel + 1, s => do
    match ← s.peek with
    | some (.alias name) => return (← s.refer name, s.drop)
    | _ =>
      let (properties, s) ← s.readProperties
      let tag ← s.tagName properties.tag
      let anchor := properties.anchor
      match ← s.peek with
      | some (.scalar plain content) => s.drop.scalar anchor tag plain content
      | next =>
        match layout? context next, depth with
        | none, _ => s.bare anchor tag
        | some _, 0 => throw .deepNesting
        | some layout, depth + 1 =>
          let s ← s.withAnchor anchor
          let (content, s) ← body layout depth fuel s
          return (content.node anchor tag, s)
termination_by structural fuel => fuel

/-- What a collection holds, from its first token on. -/
def body (layout : Layout) (depth : Nat) :
    (fuel : Nat) → Assembly → Except Fault (Body × Assembly)
  | 0, _ => .error .deepNesting
  | fuel + 1, s =>
    match layout with
    | .indentlessSequence => do
      let (items, s) ← indentlessItems depth fuel s
      return (.sequence items, s)
    | .blockSequence => do
      let (items, s) ← blockItems depth fuel s.drop
      return (.sequence items, s)
    | .blockMapping => do
      let (entries, s) ← blockEntries depth fuel s.drop
      return (.mapping entries, s)
    | .flowSequence => do
      let (items, s) ← flowItems depth true fuel s.drop
      return (.sequence items, s)
    | .flowMapping => do
      let (entries, s) ← flowEntries depth true fuel s.drop
      return (.mapping entries, s)
termination_by structural fuel => fuel

/-- The node at the start of the tokens, or the missing node in front of some tokens. -/
def nodeBefore (context : Context) (depth : Nat) (stops : List Token) :
    (fuel : Nat) → Assembly → Except Fault (Node × Assembly)
  | 0, _ => .error .deepNesting
  | fuel + 1, s => do
    if ← s.isMissingBefore stops then return (.missing, s)
    node context depth fuel s
termination_by structural fuel => fuel

/-- The value of an entry, which is missing without its mark. -/
def valueBefore (context : Context) (depth : Nat) (stops : List Token) :
    (fuel : Nat) → Assembly → Except Fault (Node × Assembly)
  | 0, _ => .error .deepNesting
  | fuel + 1, s => do
    match ← s.peek with
    | some .value => nodeBefore context depth stops fuel s.drop
    | _ => return (.missing, s)
termination_by structural fuel => fuel

/-- The items of a block sequence up to its end. -/
def blockItems (depth : Nat) : (fuel : Nat) → Assembly → Except Fault (List Node × Assembly)
  | 0, _ => .error .deepNesting
  | fuel + 1, s => do
    match ← s.peek with
    | some .blockEntry =>
      let (item, s) ← nodeBefore .block depth [.blockEntry, .blockEnd] fuel s.drop
      let (items, s) ← blockItems depth fuel s
      return (item :: items, s)
    | some .blockEnd => return ([], s.drop)
    | _ => throw .unexpected
termination_by structural fuel => fuel

/-- The items of a sequence without indentation of its own. -/
def indentlessItems (depth : Nat) :
    (fuel : Nat) → Assembly → Except Fault (List Node × Assembly)
  | 0, _ => .error .deepNesting
  | fuel + 1, s => do
    match ← s.peek with
    | some .blockEntry =>
      let (item, s) ← nodeBefore .block depth (.blockEntry :: blockStops) fuel s.drop
      let (items, s) ← indentlessItems depth fuel s
      return (item :: items, s)
    | _ => return ([], s)
termination_by structural fuel => fuel

/-- The entries of a block mapping up to its end. -/
def blockEntries (depth : Nat) :
    (fuel : Nat) → Assembly → Except Fault (List (Node × Node) × Assembly)
  | 0, _ => .error .deepNesting
  | fuel + 1, s => do
    match ← s.peek with
    | some .key =>
      let (key, s) ← nodeBefore .indentless depth blockStops fuel s.drop
      let (value, s) ← valueBefore .indentless depth blockStops fuel s
      let (entries, s) ← blockEntries depth fuel s
      return ((key, value) :: entries, s)
    | some .blockEnd => return ([], s.drop)
    | _ => throw .unexpected
termination_by structural fuel => fuel

/-- The items of a flow sequence up to its end.  An item may be a mapping of one entry. -/
def flowItems (depth : Nat) (first : Bool) :
    (fuel : Nat) → Assembly → Except Fault (List Node × Assembly)
  | 0, _ => .error .deepNesting
  | fuel + 1, s => do
    match ← s.peek with
    | some .flowSequenceEnd => return ([], s.drop)
    | _ =>
      let s ← s.dropComma first
      match ← s.peek with
      | some .flowSequenceEnd => return ([], s.drop)
      | some .key =>
        let (key, s) ←
          nodeBefore .flow depth [.value, .flowEntry, .flowSequenceEnd] fuel s.drop
        let (value, s) ← valueBefore .flow depth [.flowEntry, .flowSequenceEnd] fuel s
        let (items, s) ← flowItems depth false fuel s
        return (.mapping none .map [(key, value)] :: items, s)
      | _ =>
        let (item, s) ← node .flow depth fuel s
        let (items, s) ← flowItems depth false fuel s
        return (item :: items, s)
termination_by structural fuel => fuel

/-- The entries of a flow mapping up to its end.  A node without a mark is a key without a
value. -/
def flowEntries (depth : Nat) (first : Bool) :
    (fuel : Nat) → Assembly → Except Fault (List (Node × Node) × Assembly)
  | 0, _ => .error .deepNesting
  | fuel + 1, s => do
    match ← s.peek with
    | some .flowMappingEnd => return ([], s.drop)
    | _ =>
      let s ← s.dropComma first
      match ← s.peek with
      | some .flowMappingEnd => return ([], s.drop)
      | some .key =>
        let (key, s) ←
          nodeBefore .flow depth [.value, .flowEntry, .flowMappingEnd] fuel s.drop
        let (value, s) ← valueBefore .flow depth [.flowEntry, .flowMappingEnd] fuel s
        let (entries, s) ← flowEntries depth false fuel s
        return ((key, value) :: entries, s)
      | _ =>
        let (key, s) ← node .flow depth fuel s
        let (entries, s) ← flowEntries depth false fuel s
        return ((key, .missing) :: entries, s)
termination_by structural fuel => fuel

end

/-- The directives in front of a document: whether a version was given, and the handles. -/
def directives (versioned : Bool) (handles : List (Text × Text)) :
    List Token → Except Fault (List (Text × Text) × List Token)
  | .versionDirective major :: rest =>
    if versioned || major != 1 then .error .badDirective else directives true handles rest
  | .tagDirective handle stem :: rest =>
    if handles.any fun entry => entry.1 == handle then .error .badDirective
    else directives versioned ((handle, stem) :: handles) rest
  | .otherDirective :: rest => directives versioned handles rest
  | rest => .ok (handles, rest)

/-- The assembly after the directives and the mark at the start of a document. -/
def beginDocument (s : Assembly) : Except Fault Assembly := do
  let (handles, tokens) ← directives false [] s.tokens
  let s := { s with tokens, handles := handles ++ defaultHandles }
  match ← s.peek with
  | some .documentStart => return s.drop
  | _ => throw .unexpected

/-- Whether a token begins a document or its directives. -/
def beginsDocument : Token → Bool
  | .versionDirective _ | .tagDirective _ _ | .otherDirective | .documentStart => true
  | _ => false

/-- Whether a document without content ends before the next token. -/
def isEmptyDocument (s : Assembly) : Except Fault Bool := do
  match ← s.peek with
  | none => return true
  | some t => return beginsDocument t || t == .documentEnd

/-- Nothing but the end of the text may follow the only document. -/
def finish (s : Assembly) : Except Fault Unit := do
  let s := { s with tokens := s.tokens.dropWhile (· == Token.documentEnd) }
  match ← s.peek with
  | none => return ()
  | some _ =>
    let _ ← s.beginDocument
    throw Fault.secondDocument

/-- The node of the only document, or none if there is no document. -/
def document (s : Assembly) : Except Fault (Option Node) := do
  let fuel := 8 * s.tokens.length + 16
  match ← s.peek with
  | none => return none
  | some t =>
    let s ← if beginsDocument t then s.beginDocument else pure s
    let (root, s) ←
      if beginsDocument t && (← s.isEmptyDocument) then pure (Node.missing, s)
      else node .block Machine.nodeLevels fuel s
    s.finish
    return some root

end Assembly

/-- The node of the only document of some tokens, or none if there is no document. -/
def Node.ofTokens (tokens : List Token) (ending : Option Fault) : Except Fault (Option Node) :=
  (Assembly.start tokens ending).document

end Yaml
end ActorManifest
