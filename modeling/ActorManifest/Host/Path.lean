import ActorManifest.Text.Basic

/-!
# Paths

A path begins at the working directory or at a root and passes through names.  Empty
names and those that stay in place are dropped when it is read; a name that goes up is
kept, because what it means depends on the files.
-/

namespace ActorManifest

/-- Where a path begins.  Exactly two slashes in front name a root of their own. -/
inductive PathStart where
  | workingDirectory
  | root
  | doubleRoot
deriving DecidableEq

/-- How the beginning of a path is written. -/
def PathStart.text : PathStart → Text
  | .workingDirectory => []
  | .root => "/"
  | .doubleRoot => "//"

/-- A path to a file or a directory. -/
structure Path where
  start : PathStart
  names : List Text
deriving DecidableEq

namespace Path

/-- The sign between names. -/
def separator : CodePoint := .char '/'

/-- Whether a name stands for a step; the empty one and the single dot do not. -/
def isStep (name : Text) : Bool :=
  name != [] && name != "."

/-- The name that goes up. -/
def parentName : Text := ".."

/-- The names of a text without its beginning. -/
def namesOf (t : Text) : List Text :=
  (t.splitAll separator).filter isStep

/-- Where a text begins. -/
def startOf (t : Text) : PathStart :=
  match (t.takeWhile (· == separator)).length with
  | 0 => .workingDirectory
  | 2 => .doubleRoot
  | _ => .root

/-- The path of a text. -/
def ofText (t : Text) : Path :=
  ⟨startOf t, namesOf t⟩

/-- The text of a path; the one without names is the working directory. -/
def text (p : Path) : Text :=
  match p.start, p.names with
  | .workingDirectory, [] => "."
  | start, names => start.text ++ Text.join [separator] names

/-- The path that goes on through further names. -/
def append (p : Path) (names : List Text) : Path :=
  { p with names := p.names ++ names }

/-- The last name of a path. -/
def name (p : Path) : Text :=
  p.names.getLast?.getD []

/-- The text of a name from its last dot on.  A dot at either end of the name does not count. -/
def suffixOf (name : Text) : Text :=
  let ending := (name.reverse.takeWhile (· != .char '.')).reverse
  if 0 < ending.length ∧ ending.length + 1 < name.length then .char '.' :: ending else []

/-- The text of the last name from its last dot on. -/
def suffix (p : Path) : Text :=
  suffixOf p.name

end Path
end ActorManifest
