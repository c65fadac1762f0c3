import ActorManifest.Number.Integer
import ActorManifest.Text.Utf8
import ActorManifest.Yaml.Cursor
import ActorManifest.Yaml.Fault
import ActorManifest.Yaml.Token

/-!
# Directives, anchors and tags

The tokens that say something about a document or a node.
-/

namespace ActorManifest
namespace Yaml

/-- Whether a code point may stand in the name of an anchor, a directive or a handle. -/
def isNameSign : CodePoint → Bool
  | .char c => c.isAlphanum || c == '-' || c == '_'
  | .surrogate _ => false

/-- Whether a code point may stand in the suffix of a tag; a percent sign begins an escape. -/
def isUriSign (c : CodePoint) : Bool :=
  match c with
  | .char p => p.isAlphanum || "-;/?:@&=+$,_.!~*'()[]%".toList.contains p
  | .surrogate _ => false

/-- The octets of the escapes at a place. -/
def uriOctets : (fuel : Nat) → Cursor → Except Fault (List UInt8 × Cursor)
  | 0, c => .ok ([], c)
  | fuel + 1, c =>
    match c.rest with
    | .char '%' :: rest =>
      match rest.take 2 |>.map CodePoint.hexValue? with
      | [some high, some low] => do
        let (octets, c) ← uriOctets fuel (c.skip 3)
        return (UInt8.ofNat (high * 16 + low) :: octets, c)
      | _ => .error .tag
    | _ => .ok ([], c)

/-- The suffix of a tag, with its escapes read as UTF-8. -/
def uriFrom : (fuel : Nat) → Cursor → Except Fault (Text × Cursor)
  | 0, c => .ok ([], c)
  | fuel + 1, c =>
    match c.rest with
    | .char '%' :: _ => do
      let (octets, c) ← uriOctets c.rest.length c
      match Utf8.decode octets with
      | .error _ => .error .tag
      | .ok content =>
        let (more, c) ← uriFrom fuel c
        return (content ++ more, c)
    | p :: _ =>
      if isUriSign p then do
        let (more, c) ← uriFrom fuel c.next
        return (p :: more, c)
      else .ok ([], c)
    | [] => .ok ([], c)

/-- The suffix of a tag; it is not empty. -/
def uri (c : Cursor) : Except Fault (Text × Cursor) :=
  if c.rest.head?.any isUriSign then uriFrom c.rest.length c else .error .tag

/-- The handle of a tag: an exclamation mark, or a name between two. -/
def handle (c : Cursor) : Except Fault (Text × Cursor) :=
  match c.rest with
  | .char '!' :: .char ' ' :: _ => .ok ("!", c.next)
  | .char '!' :: _ =>
    let (name, after) := c.next.span isNameSign
    if after.rest.head? = some (.char '!') then
      .ok (Text.concat ["!", name, "!"], after.next)
    else .error .tag
  | _ => .error .tag

/-- The place after the rest of a line that holds nothing but a comment. -/
def endLine (fault : Fault) (c : Cursor) : Except Fault Cursor :=
  let c := c.skipSpaces.skipComment
  if atLineEnd c.rest then .ok c.skipBreak else .error fault

/-- The digits of a version number; there may be only so many of them. -/
def versionNumber (c : Cursor) : Except Fault (Nat × Cursor) :=
  let (digits, after) := c.span CodePoint.isAsciiDigit
  if digits.isEmpty then .error .directive
  else if Integer.maxDigits < digits.length then .error .longVersion
  else .ok ((digits.filterMap CodePoint.hexValue?).foldl (fun n d => n * 10 + d) 0, after)

/-- A directive. -/
def directive (c : Cursor) : Except Fault (Token × Cursor) := do
  let (name, c) := c.next.span isNameSign
  if name.isEmpty || !atSpace c.rest then throw .directive
  if name == Text.ofString "YAML" then
    let (major, c) ← versionNumber c.skipSpaces
    if c.rest.head? ≠ some (.char '.') then throw .directive
    let (_, c) ← versionNumber c.next
    if !atSpace c.rest then throw .directive
    return (.versionDirective major, ← endLine .directive c)
  else if name == Text.ofString "TAG" then
    let (name, c) ← handle c.skipSpaces
    if c.rest.head? ≠ some (.char ' ') then throw .directive
    let (stem, c) ← uri c.skipSpaces
    if !atSpace c.rest then throw .directive
    return (.tagDirective name stem, ← endLine .directive c)
  else
    let (_, c) := c.span fun p => !isBreak p
    return (.otherDirective, ← endLine .directive c)

/-- The name after the mark of an anchor or a reference. -/
def anchorName (c : Cursor) : Except Fault (Text × Cursor) :=
  let (name, c) := c.next.span isNameSign
  let ended := atGap c.rest || c.rest.head?.any fun p =>
    ("?:,]\x7d%@\x60".toList.map CodePoint.char).contains p
  if name.isEmpty || !ended then .error .anchorName else .ok (name, c)

/-- Whether the word at a place holds a second exclamation mark. -/
def hasHandle (t : Text) : Bool :=
  (t.takeWhile fun p => !(p == .char ' ' || isBreak p)).contains (.char '!')

/-- A tag: verbatim between angle brackets, the mark alone, or a handle and a suffix. -/
def tag (c : Cursor) : Except Fault (Token × Cursor) := do
  let rest := c.rest.drop 1
  let (token, c) ←
    if rest.head? = some (.char '<') then do
      let (suffix, c) ← uri (c.skip 2)
      if c.rest.head? ≠ some (.char '>') then throw Fault.tag
      pure (Token.tag none suffix, c.next)
    else if atGap rest then
      pure (Token.tag none "!", c.next)
    else if hasHandle rest then do
      let (name, c) ← handle c
      let (suffix, c) ← uri c
      pure (Token.tag (some name) suffix, c)
    else do
      let (suffix, c) ← uri c.next
      pure (Token.tag (some ("!" : Text)) suffix, c)
  if !atSpace c.rest then throw Fault.tag
  return (token, c)

end Yaml
end ActorManifest
