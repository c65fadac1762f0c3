import ActorManifest.Yaml.Token.Mark

/-!
# Blocks of text

A block of text follows its header line and ends where the indentation does.  In a
literal block every line break stands for itself; in a folded block a single line break
between two lines that begin with no blank stands for a space.  The header says what
becomes of the line breaks at the end.
-/

namespace ActorManifest
namespace Yaml

/-- What becomes of the line breaks at the end of a block. -/
inductive Chomping where
  | strip
  | clip
  | keep
deriving DecidableEq

/-- The header of a block: what becomes of its end, and the indentation if it is given. -/
structure BlockHeader where
  chomping : Chomping
  indentation : Option Nat

/-- The sign of a chomping. -/
def chomping? : CodePoint → Option Chomping
  | .char '+' => some .keep
  | .char '-' => some .strip
  | _ => none

/-- The digit of an indentation; zero is none. -/
def indentation? (c : CodePoint) : Option (Except Fault Nat) :=
  if c.isAsciiDigit then
    c.hexValue?.map fun n => if n = 0 then .error .blockHeader else .ok n
  else none

/-- An indentation digit, if one stands at the place. -/
def readIndentation (c : Cursor) : Except Fault (Option Nat × Cursor) :=
  match c.rest.head?.bind indentation? with
  | none => .ok (none, c)
  | some (.ok n) => .ok (some n, c.next)
  | some (.error fault) => .error fault

/-- A chomping sign, if one stands at the place. -/
def readChomping (c : Cursor) : Option Chomping × Cursor :=
  match c.rest.head?.bind chomping? with
  | none => (none, c)
  | some chomping => (some chomping, c.next)

/-- The header of a block, its two signs in either order. -/
def blockHeader (c : Cursor) : Except Fault (BlockHeader × Cursor) := do
  let (first, c) := readChomping c
  let (indentation, c) ← readIndentation c
  let (second, c) :=
    if first.isNone && indentation.isSome then readChomping c else (none, c)
  if !atSpace c.rest then throw .blockHeader
  return (⟨(first <|> second).getD .clip, indentation⟩, c)

/-- The line breaks before the first line, the greatest column among the spaces between them,
and the place after them. -/
def leadingBreaks : (fuel : Nat) → (widest : Nat) → Cursor → Text × Nat × Cursor
  | 0, widest, c => ([], widest, c)
  | fuel + 1, widest, c =>
    match c.rest with
    | p :: _ =>
      if p = .char ' ' then leadingBreaks fuel (max widest c.next.column) c.next
      else if isBreak p then
        let (breaks, widest, c) := leadingBreaks fuel widest c.next
        (p :: breaks, widest, c)
      else ([], widest, c)
    | [] => ([], widest, c)

/-- The place after the spaces before a column. -/
def skipIndentation : (fuel indentation : Nat) → Cursor → Cursor
  | 0, _, c => c
  | fuel + 1, indentation, c =>
    if c.column < indentation ∧ c.rest.head? = some (.char ' ') then
      skipIndentation fuel indentation c.next
    else c

/-- The line breaks up to the next line, and the place where its content may begin. -/
def blockBreaks : (fuel indentation : Nat) → Cursor → Text × Cursor
  | 0, _, c => ([], c)
  | fuel + 1, indentation, c =>
    let c := skipIndentation (indentation + 1) indentation c
    match c.rest with
    | p :: _ =>
      if isBreak p then
        let (breaks, c) := blockBreaks fuel indentation c.next
        (p :: breaks, c)
      else ([], c)
    | [] => ([], c)

/-- What stands between two lines of a block. -/
def joint (folded : Bool) (lineBreak breaks : Text) (before after : Option CodePoint) : Text :=
  if folded && lineBreak == Text.ofString "\n" && !before.any isBlank && !after.any isBlank then
    if breaks.isEmpty then [.char ' '] else []
  else lineBreak

/-- The lines of a block, after the line breaks in front of them.  The result is the content,
the last line break and the line breaks after it. -/
def blockLines (folded : Bool) (indentation : Nat) :
    (fuel : Nat) → (breaks : Text) → Cursor → Text × Text × Text × Cursor
  | 0, breaks, c => ([], [], breaks, c)
  | fuel + 1, breaks, c =>
    let before := c.rest.head?
    let (line, c) := c.span fun p => !isBreak p
    let lineBreak := c.rest.take 1
    let c := c.skipBreak
    let (following, c) := blockBreaks (c.rest.length + 1) indentation c
    if c.column = indentation ∧ c.rest ≠ [] then
      let between := joint folded lineBreak following before c.rest.head?
      let (content, last, trailing, c) := blockLines folded indentation fuel following c
      (breaks ++ line ++ between ++ content, last, trailing, c)
    else (breaks ++ line, lineBreak, following, c)

/-- The content of a block of text from its mark on, where `parent` is the indentation of
what holds it. -/
def blockScalar (folded : Bool) (parent : Int) (c : Cursor) :
    Except Fault (Text × Cursor) := do
  let (header, c) ← blockHeader c.next
  let c ← endLine .blockHeader c
  let least := max 1 (parent + 1).toNat
  let fuel := c.rest.length + 1
  let (breaks, indentation, c) := match header.indentation with
    | none =>
      let (breaks, widest, c) := leadingBreaks fuel 0 c
      (breaks, max least widest, c)
    | some n =>
      let indentation := least + n - 1
      let (breaks, c) := blockBreaks fuel indentation c
      (breaks, indentation, c)
  let (content, last, trailing, c) :=
    if c.column = indentation ∧ c.rest ≠ [] then blockLines folded indentation fuel breaks c
    else ([], [], breaks, c)
  let ending := match header.chomping with
    | .strip => []
    | .clip => last
    | .keep => last ++ trailing
  return (content ++ ending, c)

end Yaml
end ActorManifest
