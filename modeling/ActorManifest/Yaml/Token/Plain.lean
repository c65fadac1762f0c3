import ActorManifest.Yaml.Token.Quoted

/-!
# Plain scalars

A plain scalar goes on until a colon before a gap, a comment, or less indentation.  In a
flow collection the brackets, the comma and the question mark end it too.  Lines are
joined as in quoted scalars, and a tab ends the scalar.
-/

namespace ActorManifest
namespace Yaml

/-- The marks of a flow collection that may follow a colon. -/
def flowMarks : List CodePoint :=
  ",[]\x7b\x7d".toList.map .char

/-- The part of a plain scalar up to the next gap. -/
def plainRun (flow : Bool) : Text → Text
  | [] => []
  | p :: rest =>
    if isBlank p || isBreak p then []
    else if p = .char ':' ∧ (atGap rest ∨ (flow = true ∧ rest.head?.any flowMarks.contains)) then
      []
    else if flow && (p == .char '?' || flowMarks.contains p) then []
    else p :: plainRun flow rest

/-- The line breaks from the start of a line on, without the spaces between them, unless a
document mark comes first. -/
def plainBreaks : (fuel : Nat) → Cursor → Option Text × Cursor
  | 0, c => (some [], c)
  | fuel + 1, c =>
    if atDocumentMark c.rest then (none, c)
    else
      let c := c.skipSpaces
      match c.rest with
      | p :: _ =>
        if isBreak p then
          let (breaks, c) := plainBreaks fuel c.next
          (breaks.map (p :: ·), c)
        else (some [], c)
      | [] => (some [], c)

/-- What a gap stands for, whether it crosses a line, and the place after it.  A gap that ends
at a document mark stands for nothing. -/
def plainSpaces (c : Cursor) : Text × Bool × Cursor :=
  let (spaces, c) := c.span (· == .char ' ')
  match c.rest with
  | p :: _ =>
    if isBreak p then
      match plainBreaks (c.rest.length + 1) c.next with
      | (none, c) => ([], true, c)
      | (some breaks, c) => (foldedText p breaks, true, c)
    else (spaces, false, c)
  | [] => (spaces, false, c)

/-- The content of a plain scalar from a place on, after the gap in front of it, and whether
the last gap crosses a line. -/
def plainFrom (flow : Bool) (indentation : Int) :
    (fuel : Nat) → (gap : Text) → (crossed : Bool) → Cursor → Text × Bool × Cursor
  | 0, _, crossed, c => ([], crossed, c)
  | fuel + 1, gap, crossed, c =>
    let run := if c.rest.head? = some (.char '#') then [] else plainRun flow c.rest
    if run.isEmpty then ([], crossed, c)
    else
      let (next, crossed, c) := plainSpaces (c.skip run.length)
      if next.isEmpty || (!flow && decide ((c.column : Int) < indentation)) then
        (gap ++ run, crossed, c)
      else
        let (content, crossed, c) := plainFrom flow indentation fuel next crossed c
        (gap ++ run ++ content, crossed, c)

/-- A plain scalar, where `parent` is the indentation of what holds it: its content, whether
it ends after a line break, and the place after it. -/
def plainScalar (flow : Bool) (parent : Int) (c : Cursor) : Text × Bool × Cursor :=
  plainFrom flow (parent + 1) (c.rest.length + 1) [] false c

end Yaml
end ActorManifest
