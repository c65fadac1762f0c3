import ActorManifest.Entries
import ActorManifest.Host.Path

/-!
# Environment

The variables of a process and the home directories of the users of its machine.  A path
whose first name begins with a tilde is relative to a home directory: that of the named
user, or, if no user is named, the one that the environment gives.
-/

namespace ActorManifest

/-- The variables of a process. -/
abbrev Variables := Entries Text Text

/-- The value of a variable. -/
def Variables.get? (environment : Variables) (name : Text) : Option Text :=
  environment.lookup name

/-- The variables after one is given a value unless it has one. -/
def Variables.setNew (environment : Variables) (name value : Text) : Variables :=
  match environment.get? name with
  | some _ => environment
  | none => environment ++ [(name, value)]

/-- The users of a machine. -/
structure Users where
  /-- The home directory of the user who runs the process. -/
  ownHome : Text
  /-- The home directories of all users by their names. -/
  homes : Entries Text Text

/-- Why a path has no form without a tilde. -/
inductive HomeFault where
  /-- There is no such user, or the home directory is given by a tilde again. -/
  | unknown
  /-- The name of the user holds the null character. -/
  | nullCharacter
deriving DecidableEq

namespace Path

/-- The sign that stands for a home directory. -/
def tilde : CodePoint := .char '~'

/-- The home directory that a name beginning with a tilde stands for. -/
def homeOf (users : Users) (environment : Variables) (user : Text) : Except HomeFault Text :=
  match user with
  | [] => .ok ((environment.get? "HOME").getD users.ownHome)
  | user =>
    if user.contains (.char '\x00') then .error .nullCharacter
    else (users.homes.lookup user).elim (.error .unknown) .ok

/-- A home directory without the slashes at its end; one of slashes alone is the root. -/
def trimHome (home : Text) : Text :=
  match home.dropEndWhile (· == separator) with
  | [] => [separator]
  | home => home

/-- The path with the home directory in place of a tilde. -/
def expandHome (users : Users) (environment : Variables) (p : Path) : Except HomeFault Path :=
  match p.start, p.names with
  | .workingDirectory, (c :: user) :: names =>
    if c = tilde then do
      let home := trimHome (← homeOf users environment user)
      if home.head? = some tilde then throw .unknown
      else return (Path.ofText home).append names
    else .ok p
  | _, _ => .ok p

end Path
end ActorManifest
