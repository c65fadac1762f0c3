import ActorManifest.Breakdown
import ActorManifest.Notice

/-!
# Reports

What a command leaves behind: what it writes on its two streams, how it ends, and the
files afterwards.  A line is printed without the sequences that give colours to a terminal.
The output must be text without lone surrogates; among the errors those are escaped.
-/

namespace ActorManifest
namespace Command

/-- Where a text is written. -/
inductive Stream where
  | output
  | errors
deriving DecidableEq

/-- A text written on a stream. -/
structure Write where
  stream : Stream
  text : Text
deriving DecidableEq

/-- How a command ends. -/
inductive Ending where
  | exit (code : Nat)
  /-- The arguments cannot be understood. -/
  | usage
  | broken (cause : Breakdown)
deriving DecidableEq

/-- What a command leaves behind. -/
structure Report where
  writes : List Write
  ending : Ending
  files : FileTree

/-- The text written on a stream. -/
def Report.textOn (r : Report) (stream : Stream) : Text :=
  Text.concat ((r.writes.filter fun write => write.stream == stream).map Write.text)

/-- The exit code that a report gives. -/
def Report.exitCode (r : Report) : Nat :=
  match r.ending with
  | .exit code => code
  | .usage => 2
  | .broken _ => 1

/-- The report with writes in front of its own. -/
def Report.after (earlier : List Write) (r : Report) : Report :=
  { r with writes := earlier ++ r.writes }

/-- Whether a code point stands between the beginning and the letter of a sequence for a
terminal. -/
def isParameter (c : CodePoint) : Bool :=
  c.isAsciiDigit || c == .char ';' || c == .char '?'

/-- The number of code points of the sequence for a terminal in front of a text. -/
def sequenceLength? : Text → Option Nat
  | .char '\x1b' :: .char '[' :: rest =>
    match rest.dropWhile isParameter with
    | .char c :: _ =>
      if c.isAlpha then some ((rest.takeWhile isParameter).length + 3) else none
    | _ => none
  | _ => none

/-- The text without the sequences for a terminal, where the first `skip` code points belong
to such a sequence. -/
def plainFrom : (skip : Nat) → Text → Text
  | _, [] => []
  | skip + 1, _ :: rest => plainFrom skip rest
  | 0, c :: rest =>
    match sequenceLength? (c :: rest) with
    | some length => plainFrom (length - 1) rest
    | none => c :: plainFrom 0 rest

/-- The text without the sequences for a terminal. -/
def plain (t : Text) : Text :=
  plainFrom 0 t

/-- The text with escapes in place of lone surrogates. -/
def escapeSurrogates (t : Text) : Text :=
  t.flatMap fun
    | .char c => [.char c]
    | c => Text.ofString "\\u" ++ Text.ofNatHex 4 c.toNat

/-- A line on the output. -/
def printed (line : Text) : Except Breakdown Write :=
  let text := plain (line ++ Text.ofString "\n")
  if text.hasSurrogate then .error .unprintable else .ok ⟨.output, text⟩

/-- A line among the errors. -/
def complaint (line : Text) : Write :=
  ⟨.errors, escapeSurrogates (plain (line ++ Text.ofString "\n"))⟩

/-- A line among the errors that reports a notice. -/
def reported (line : Text) : Write :=
  ⟨.errors, escapeSurrogates (line ++ Text.ofString "\n")⟩

/-- The report of a command that prints lines up to the first that cannot be printed. -/
def printing (files : FileTree) : List (Except Breakdown Text) → Report
  | [] => ⟨[], .exit 0, files⟩
  | line :: lines =>
    match line.bind printed with
    | .error cause => ⟨[], .broken cause, files⟩
    | .ok write => (printing files lines).after [write]

/-- The report of a command that stops without a finding. -/
def stopped (files : FileTree) (cause : Breakdown) : Report :=
  ⟨[], .broken cause, files⟩

/-- The report of a command whose arguments cannot be understood. -/
def misused (files : FileTree) : Report :=
  ⟨[], .usage, files⟩

/-- The report of a command that complains and fails. -/
def failing (files : FileTree) (line : Text) : Report :=
  ⟨[complaint line], .exit 1, files⟩

end Command
end ActorManifest
