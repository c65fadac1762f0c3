import ActorManifest.Text.Basic
import ActorManifest.Unicode.Blank

/-!
# Statements of a file of variables

A file of variables is a list of statements, mostly one on each line: a name and, behind a
sign of equality, a value.  A value between quotes may hold line breaks and escapes; one
without quotes ends with its line or before a comment.  What is no statement is passed
over up to the end of its line, and its first line is remembered.
-/

namespace ActorManifest
namespace EnvFile

/-- A statement of a file of variables. -/
inductive Statement where
  /-- A name, and a value unless it is missing. -/
  | binding (name : Text) (value : Option Text)
  /-- A comment, or nothing. -/
  | blank
  /-- Something else. -/
  | faulty
deriving DecidableEq

/-- Whether a code point ends a line. -/
def isLineEnd (c : CodePoint) : Bool :=
  c == .char '\n' || c == .char '\r'

/-- Whether a code point is blank and ends no line. -/
def isGap (c : CodePoint) : Bool :=
  Unicode.isBlank c && !isLineEnd c

/-- The word that may come before a name. -/
def exportWord : Text := "export"

/-- The text without the word that may come before a name. -/
def dropExport (t : Text) : Text :=
  match Text.after? exportWord t with
  | some (c :: rest) => if isGap c then rest.dropWhile isGap else t
  | _ => t

/-- Whether a code point belongs to a name without quotes. -/
def isNamePoint (c : CodePoint) : Bool :=
  c != .char '=' && c != .char '#' && !Unicode.isBlank c

/-- The name in front of a text, if it is well formed, and the text after it.  A comment
stands for no name. -/
def readName? (t : Text) : Option (Option Text × Text) :=
  match t with
  | .char '#' :: _ => some (none, t)
  | .char '\x27' :: rest =>
    match Text.cutAt? (.char '\x27') rest with
    | some ([], _) | none => none
    | some (name, rest) => some (some name, rest)
  | _ =>
    match t.takeWhile isNamePoint with
    | [] => none
    | name => some (some name, t.dropWhile isNamePoint)

/-- The text before the first quote without a backslash in front, and the text after it. -/
def cutAtQuote? (quote : CodePoint) (afterBackslash : Bool) : Text → Option (Text × Text)
  | [] => none
  | c :: rest =>
    if c = quote ∧ !afterBackslash then some ([], rest)
    else
      (cutAtQuote? quote (c == .char '\\') rest).map fun (before, after) => (c :: before, after)

/-- The text before the last quote and the text after it. -/
def cutAtLast? (quote : CodePoint) (t : Text) : Option (Text × Text) :=
  (Text.cutAt? quote t.reverse).map fun (after, before) => (before.reverse, after.reverse)

/-- The text up to the quote that closes it, and the text after that.  If every quote has a
backslash in front, the last one closes. -/
def closeQuote? (quote : CodePoint) (t : Text) : Option (Text × Text) :=
  cutAtQuote? quote false t <|> cutAtLast? quote t

/-- The code point that an escape between single quotes stands for. -/
def singleEscape? (c : CodePoint) : Option CodePoint :=
  if c = .char '\\' ∨ c = .char '\x27' then some c else none

/-- The code point that an escape between double quotes stands for. -/
def doubleEscape? (c : CodePoint) : Option CodePoint :=
  match c with
  | .char '\\' | .char '\x27' | .char '"' => some c
  | .char 'a' => some (.char '\x07')
  | .char 'b' => some (.char '\x08')
  | .char 'f' => some (.char '\x0C')
  | .char 'n' => some (.char '\n')
  | .char 'r' => some (.char '\r')
  | .char 't' => some (.char '\t')
  | .char 'v' => some (.char '\x0B')
  | _ => none

/-- The text with the escapes replaced; a backslash in front of anything else stays. -/
def unescape (escape? : CodePoint → Option CodePoint) : Text → Text
  | .char '\\' :: c :: rest =>
    match escape? c with
    | some meant => meant :: unescape escape? rest
    | none => .char '\\' :: unescape escape? (c :: rest)
  | c :: rest => c :: unescape escape? rest
  | [] => []

/-- The text before the first blanks that a number sign follows. -/
def dropComment : Text → Text
  | [] => []
  | c :: rest =>
    if Unicode.isBlank c && (rest.dropWhile Unicode.isBlank).head? == some (.char '#') then []
    else c :: dropComment rest

/-- The value in front of a text, if it is well formed, and the text after it. -/
def readValue? (t : Text) : Option (Text × Text) :=
  match t with
  | .char '\x27' :: rest =>
    (closeQuote? (.char '\x27') rest).map fun (value, rest) => (unescape singleEscape? value, rest)
  | .char '"' :: rest =>
    (closeQuote? (.char '"') rest).map fun (value, rest) => (unescape doubleEscape? value, rest)
  | _ =>
    let line := t.takeWhile fun c => !isLineEnd c
    some ((dropComment line).dropEndWhile Unicode.isBlank, t.dropWhile fun c => !isLineEnd c)

/-- The text without the comment in front of it. -/
def skipComment (t : Text) : Text :=
  match t.dropWhile isGap with
  | .char '#' :: rest => rest.dropWhile fun c => !isLineEnd c
  | _ => t

/-- The text after the end of a line, if nothing but blanks comes before it. -/
def endLine? (t : Text) : Option Text :=
  match t.dropWhile isGap with
  | [] => some []
  | .char '\r' :: .char '\n' :: rest => some rest
  | c :: rest => if isLineEnd c then some rest else none

/-- The text after the line that it begins in. -/
def skipLine (t : Text) : Text :=
  (t.dropWhile fun c => !isLineEnd c).drop 1

/-- The statement in front of a text, and the text after it. -/
def readStatement (t : Text) : Statement × Text :=
  match t.dropWhile Unicode.isBlank with
  | [] => (.blank, [])
  | t =>
    let atName := dropExport t
    match readName? atName with
    | none => (.faulty, skipLine atName)
    | some (name, rest) =>
      let afterName := rest.dropWhile isGap
      let value := match afterName with
        | .char '=' :: rest =>
          let atValue := rest.dropWhile isGap
          match readValue? atValue with
          | none => Except.error atValue
          | some (value, rest) => .ok (some value, rest)
        | _ => .ok (none, afterName)
      match value with
      | .error atValue => (.faulty, skipLine atValue)
      | .ok (value, rest) =>
        let rest := skipComment rest
        match endLine? rest with
        | none => (.faulty, skipLine rest)
        | some after => (name.elim .blank fun name => .binding name value, after)

/-- The number of lines that end in a text. -/
def lineEnds (t : Text) : Nat :=
  (t.unifyLineBreaks.filter isLineEnd).length

/-- The statements of a text that begins at a line, each with the line at which it begins.
Each of them takes at least one code point, so there are no more of them than those. -/
def statementsFrom : (fuel line : Nat) → Text → List (Nat × Statement)
  | 0, _, _ => []
  | _, _, [] => []
  | fuel + 1, line, t =>
    let (statement, rest) := readStatement t
    (line, statement) :: statementsFrom fuel (line + (lineEnds t - lineEnds rest)) rest

/-- The statements of a text, each with the line at which it begins. -/
def statements (t : Text) : List (Nat × Statement) :=
  statementsFrom t.length 1 t

/-- The lines at which something begins that is no statement. -/
def faultyLines (statements : List (Nat × Statement)) : List Nat :=
  statements.filterMap fun (line, statement) =>
    if statement = .faulty then some line else none

/-- The names and values that statements give, in order. -/
def bindings (statements : List (Nat × Statement)) : List (Text × Option Text) :=
  statements.filterMap fun
    | (_, .binding name value) => some (name, value)
    | _ => none

end EnvFile
end ActorManifest
