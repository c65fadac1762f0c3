import ActorManifest.Text.Basic

/-!
# Cursors

A cursor is a place in a text: what is left of the text, and how far the place is from
the start of the text and of its line.  Line breaks are line feeds and the two
separators of lines and paragraphs.  A byte order mark takes no column.
-/

namespace ActorManifest
namespace Yaml

/-- The separator of lines. -/
def lineSeparator : CodePoint := .char '\u2028'

/-- The separator of paragraphs. -/
def paragraphSeparator : CodePoint := .char '\u2029'

/-- Whether a code point ends a line. -/
def isBreak (c : CodePoint) : Bool :=
  c == .char '\n' || c == lineSeparator || c == paragraphSeparator

/-- Whether a code point is a space or a tab. -/
def isBlank (c : CodePoint) : Bool :=
  c == .char ' ' || c == .char '\t'

/-- Whether a text ends here or goes on with a line break. -/
def atLineEnd : Text → Bool
  | [] => true
  | c :: _ => isBreak c

/-- Whether a text ends here or goes on with a blank or a line break. -/
def atGap : Text → Bool
  | [] => true
  | c :: _ => isBlank c || isBreak c

/-- Whether a text ends here or goes on with a space or a line break. -/
def atSpace : Text → Bool
  | [] => true
  | c :: _ => c == .char ' ' || isBreak c

/-- Whether one of the marks around documents stands here. -/
def atDocumentMark (t : Text) : Bool :=
  let mark := t.take 3
  (mark == Text.ofString "---" || mark == Text.ofString "...") && atGap (t.drop 3)

/-- A place in a text. -/
structure Cursor where
  rest : Text
  index : Nat
  line : Nat
  column : Nat

namespace Cursor

/-- The start of a text. -/
def start (t : Text) : Cursor := ⟨t, 0, 0, 0⟩

/-- The place after the next code point. -/
def next (c : Cursor) : Cursor :=
  match c.rest with
  | [] => c
  | p :: rest =>
    if isBreak p then ⟨rest, c.index + 1, c.line + 1, 0⟩
    else if p = .char '\uFEFF' then ⟨rest, c.index + 1, c.line, c.column⟩
    else ⟨rest, c.index + 1, c.line, c.column + 1⟩

/-- The place after a number of code points. -/
def skip : (count : Nat) → Cursor → Cursor
  | 0, c => c
  | count + 1, c => skip count c.next

/-- The code points that satisfy `p` up to the first that does not, and the place of that one. -/
def span (p : CodePoint → Bool) (c : Cursor) : Text × Cursor :=
  let taken := c.rest.takeWhile p
  (taken, c.skip taken.length)

/-- The place after the spaces. -/
def skipSpaces (c : Cursor) : Cursor :=
  (c.span (· == .char ' ')).2

/-- The place after a comment, if one begins here. -/
def skipComment (c : Cursor) : Cursor :=
  if c.rest.head? = some (.char '#') then (c.span fun p => !isBreak p).2 else c

/-- The place after a line break, if one is here. -/
def skipBreak (c : Cursor) : Cursor :=
  match c.rest with
  | p :: _ => if isBreak p then c.next else c
  | [] => c

end Cursor
end Yaml
end ActorManifest
