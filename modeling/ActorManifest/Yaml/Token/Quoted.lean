import ActorManifest.Yaml.Cursor
import ActorManifest.Yaml.Fault

/-!
# Quoted scalars

Between single quotes a quote is written twice.  Between double quotes a backslash
begins an escape.  In both, a line break and the blanks around it stand for one space,
and further line breaks stand for themselves.
-/

namespace ActorManifest
namespace Yaml

/-- The code point of an escape that is one sign long. -/
def signEscape? : CodePoint → Option CodePoint
  | .surrogate _ => none
  | .char c =>
    match c with
    | '0' => some (.char '\x00')
    | 'a' => some (.char '\x07')
    | 'b' => some (.char '\x08')
    | 't' => some (.char '\t')
    | '\t' => some (.char '\t')
    | 'n' => some (.char '\n')
    | 'v' => some (.char '\x0b')
    | 'f' => some (.char '\x0c')
    | 'r' => some (.char '\r')
    | 'e' => some (.char '\x1b')
    | ' ' => some (.char ' ')
    | '"' => some (.char '"')
    | '\\' => some (.char '\\')
    | '/' => some (.char '/')
    | 'N' => some (.char '\u0085')
    | '_' => some (.char '\u00a0')
    | 'L' => some lineSeparator
    | 'P' => some paragraphSeparator
    | _ => none

/-- How many hexadecimal digits follow the letter of an escape. -/
def numberEscape? : CodePoint → Option Nat
  | .char 'x' => some 2
  | .char 'u' => some 4
  | .char 'U' => some 8
  | _ => none

/-- The code point of an escape by its number. -/
def escapedNumber (digits : List Nat) : Except Fault CodePoint :=
  let n := digits.foldl (fun n d => n * 16 + d) 0
  match CodePoint.ofNat? n with
  | some c => .ok c
  | none => if n < 0x80000000 then .error .badEscapeNumber else .error .hugeEscape

/-- The line breaks from the start of a line on, with the blanks between them left out. -/
def foldedBreaks : (fuel : Nat) → Cursor → Except Fault (Text × Cursor)
  | 0, c => .ok ([], c)
  | fuel + 1, c =>
    if atDocumentMark c.rest then .error .cutQuote
    else
      let c := (c.span isBlank).2
      match c.rest with
      | p :: _ =>
        if isBreak p then do
          let (breaks, c) ← foldedBreaks fuel c.next
          return (p :: breaks, c)
        else .ok ([], c)
      | [] => .ok ([], c)

/-- What a line break and the line breaks after it stand for. -/
def foldedText (first : CodePoint) (breaks : Text) : Text :=
  (if first != .char '\n' then [first] else if breaks.isEmpty then [.char ' '] else []) ++ breaks

/-- What a run of blanks, with the line breaks after it, stands for. -/
def quotedSpaces (c : Cursor) : Except Fault (Text × Cursor) :=
  let (blanks, c) := c.span isBlank
  match c.rest with
  | [] => .error .openQuote
  | p :: _ =>
    if isBreak p then do
      let (breaks, c) ← foldedBreaks (c.rest.length + 1) c.next
      return (foldedText p breaks, c)
    else .ok (blanks, c)

/-- What an escape stands for, from its backslash on. -/
def quotedEscape (c : Cursor) : Except Fault (Text × Cursor) :=
  match c.rest.drop 1 with
  | [] => .error .escape
  | p :: rest =>
    match signEscape? p, numberEscape? p with
    | some found, _ => .ok ([found], c.skip 2)
    | none, some count =>
      match (rest.take count).mapM CodePoint.hexValue? with
      | some digits =>
        if digits.length = count then do
          return ([← escapedNumber digits], c.skip (2 + count))
        else .error .escape
      | none => .error .escape
    | none, none =>
      if isBreak p then foldedBreaks (c.rest.length + 1) (c.skip 2) else .error .escape

/-- The content from a place up to the closing quote, and the place after it. -/
def quotedFrom (double : Bool) : (fuel : Nat) → Cursor → Except Fault (Text × Cursor)
  | 0, _ => .error .openQuote
  | fuel + 1, c =>
    match c.rest with
    | [] => .error .openQuote
    | p :: rest =>
      if p = .char '\x27' ∧ double = false then
        if rest.head? = some (.char '\x27') then do
          let (content, c) ← quotedFrom double fuel (c.skip 2)
          return (p :: content, c)
        else .ok ([], c.next)
      else if p = .char '"' ∧ double = true then .ok ([], c.next)
      else if p = .char '\\' ∧ double = true then do
        let (found, c) ← quotedEscape c
        let (content, c) ← quotedFrom double fuel c
        return (found ++ content, c)
      else if isBlank p || isBreak p then do
        let (found, c) ← quotedSpaces c
        let (content, c) ← quotedFrom double fuel c
        return (found ++ content, c)
      else do
        let (content, c) ← quotedFrom double fuel c.next
        return (p :: content, c)

/-- The content of a quoted scalar, from its opening quote on. -/
def quotedScalar (double : Bool) (c : Cursor) : Except Fault (Text × Cursor) :=
  quotedFrom double c.rest.length c.next

end Yaml
end ActorManifest
