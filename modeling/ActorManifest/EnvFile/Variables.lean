import ActorManifest.EnvFile.Statement
import ActorManifest.Host.Environment

/-!
# Variables from a file

A value may refer to variables: to those of the process first, then to those given before
it in the file, with a default for a name that is neither.  The process keeps every value
it has; the file gives values to other names only.
-/

namespace ActorManifest
namespace EnvFile

/-- A reference to a variable, and the number of code points that it takes. -/
structure Reference where
  name : Text
  fallback : Text
  length : Nat

/-- Whether a code point belongs to the name in a reference. -/
def isReferencePoint (c : CodePoint) : Bool :=
  c != .char '\x7d' && c != .char ':'

/-- The reference in front of a text. -/
def reference? (t : Text) : Option Reference :=
  match t with
  | .char '$' :: .char '\x7b' :: rest =>
    let name := rest.takeWhile isReferencePoint
    match rest.dropWhile isReferencePoint with
    | .char '\x7d' :: _ => some ⟨name, [], name.length + 3⟩
    | .char ':' :: .char '-' :: rest =>
      (Text.cutAt? (.char '\x7d') rest).map fun (fallback, _) =>
        ⟨name, fallback, name.length + fallback.length + 5⟩
    | _ => none
  | _ => none

/-- The text with the values of the variables it refers to, where the first `skip` code
points belong to a reference that is already replaced. -/
def expandFrom (value? : Text → Option Text) : (skip : Nat) → Text → Text
  | _, [] => []
  | skip + 1, _ :: rest => expandFrom value? skip rest
  | 0, c :: rest =>
    match reference? (c :: rest) with
    | some r => (value? r.name).getD r.fallback ++ expandFrom value? (r.length - 1) rest
    | none => c :: expandFrom value? 0 rest

/-- The text with the values of the variables it refers to. -/
def expand (value? : Text → Option Text) (t : Text) : Text :=
  expandFrom value? 0 t

/-- The value that a name has in the process or among the names given so far; a name given
without a value has the empty one. -/
def valueAmong? (environment : Variables) (given : Entries Text (Option Text)) (name : Text) :
    Option Text :=
  environment.get? name <|> (given.lookup name).map fun value => value.getD []

/-- The names that bindings give, each in its first place with its last value. -/
def resolve (environment : Variables) (bindings : List (Text × Option Text)) :
    Entries Text (Option Text) :=
  bindings.foldl
    (fun given (name, value) =>
      Entries.put (· == ·) name (value.map (expand (valueAmong? environment given))) given)
    []

/-- Whether a process can hold a variable. -/
def isVariable (name value : Text) : Bool :=
  !name.contains (.char '=') && !name.contains (.char '\x00') && !value.contains (.char '\x00')

/-- The variables of a process after it is given one that a file names, unless it has it.
There is none if no process can hold it. -/
def give? (environment : Variables) (entry : Text × Option Text) : Option Variables :=
  match entry with
  | (_, none) => some environment
  | (name, some value) =>
    if (environment.get? name).isSome then some environment
    else if isVariable name value then some (environment.setNew name value)
    else none

/-- The variables of a process after it is given those of a file. -/
def extend? (environment : Variables) (statements : List (Nat × Statement)) : Option Variables :=
  (resolve environment (bindings statements)).foldlM give? environment

end EnvFile
end ActorManifest
