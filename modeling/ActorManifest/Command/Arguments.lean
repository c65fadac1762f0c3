import ActorManifest.Text.Basic

/-!
# Arguments

The arguments of the program are flags, the name of a command, and what the command is
given.  Flags in front of the name are for the program, those behind it for the command.
Two dashes alone end the flags.
-/

namespace ActorManifest
namespace Command

/-- A flag of the program or of a command. -/
inductive Flag where
  | verbose
  | version
  | help
  | json
  | force
deriving DecidableEq

namespace Flag

/-- The long name of a flag. -/
def longName : Flag → String
  | .verbose => "--verbose"
  | .version => "--version"
  | .help => "--help"
  | .json => "--json"
  | .force => "--force"

/-- The letter of a flag that has a short name. -/
def letter? : Flag → Option Char
  | .verbose => some 'v'
  | _ => none

end Flag

/-- The sign in front of flags. -/
def dash : CodePoint := .char '-'

/-- The flag of a long name. -/
def longFlag? (flags : List Flag) (t : Text) : Option Flag :=
  flags.find? fun flag => Text.ofString flag.longName == t

/-- The flag of a letter. -/
def shortFlag? (flags : List Flag) (c : CodePoint) : Option Flag :=
  flags.find? fun flag => flag.letter?.map CodePoint.char == some c

/-- The flags of an argument that begins with a dash: one with a long name, or one for each
letter. -/
def flagsOf? (flags : List Flag) (argument : Text) : Option (List Flag) :=
  match argument with
  | .char '-' :: .char '-' :: _ => (longFlag? flags argument).map fun flag => [flag]
  | _ => (argument.drop 1).mapM (shortFlag? flags)

/-- The flags among arguments and the other arguments, unless there is an unknown flag.
Where flags must come first, the first other argument ends them. -/
def scan (flags : List Flag) (flagsFirst : Bool) : List Text → Option (List Flag × List Text)
  | [] => some ([], [])
  | argument :: rest =>
    if argument = [dash, dash] then some ([], rest)
    else if argument.head? = some dash ∧ 1 < argument.length then do
      let found ← flagsOf? flags argument
      let (more, others) ← scan flags flagsFirst rest
      return (found ++ more, others)
    else if flagsFirst then some ([], argument :: rest)
    else (scan flags flagsFirst rest).map fun (found, others) => (found, argument :: others)

/-- A command of the program. -/
inductive Name where
  | validate
  | «show»
  | status
  | init
deriving DecidableEq

namespace Name

/-- The name of a command. -/
def text : Name → String
  | .validate => "validate"
  | .show => "show"
  | .status => "status"
  | .init => "init"

/-- All commands. -/
def all : List Name :=
  [.validate, .show, .status, .init]

/-- The command of a name. -/
def ofText? (t : Text) : Option Name :=
  all.find? fun name => Text.ofString name.text == t

/-- The flags of a command. -/
def flags : Name → List Flag
  | .validate | .status => [.help]
  | .show => [.json, .help]
  | .init => [.force, .help]

end Name

/-- What the program is asked for, as far as the flags in front of a command tell. -/
inductive Invocation where
  /-- The arguments cannot be understood. -/
  | usage
  | version
  | help
  /-- A command and its arguments. -/
  | command (verbose : Bool) (name : Name) (arguments : List Text)
deriving DecidableEq

/-- The flags of the program. -/
def programFlags : List Flag :=
  [.version, .verbose, .help]

/-- The invocation that flags ask for by themselves: the first of them counts. -/
def informing? (found : List Flag) : Option Invocation :=
  found.findSome? fun
    | .version => some .version
    | .help => some .help
    | _ => none

/-- What the program is asked for.  Behind two dashes, flags in place of a command still count
as far as they only inform. -/
def invocation (arguments : List Text) : Invocation :=
  match scan programFlags true arguments with
  | none => .usage
  | some (found, others) =>
    match informing? found, others with
    | some invocation, _ => invocation
    | none, [] => .usage
    | none, name :: rest =>
      match Name.ofText? name with
      | some name => .command (found.contains .verbose) name rest
      | none =>
        match scan programFlags true others with
        | none => .usage
        | some (found, _) => (informing? found).getD .usage

/-- What a command is asked for. -/
inductive Request where
  | usage
  | help
  /-- A command on a manifest; more arguments than that one are a fault of their own. -/
  | manifest (name : Name) (json : Bool) (manifest : Text) (more : List Text)
  | init (force : Bool)
deriving DecidableEq

/-- What a command is asked for. -/
def request (name : Name) (arguments : List Text) : Request :=
  match scan name.flags false arguments with
  | none => .usage
  | some (found, others) =>
    if found.contains .help then .help
    else
      match name, others with
      | .init, [] => .init (found.contains .force)
      | .init, _ => .usage
      | _, [] => .usage
      | name, manifest :: more => .manifest name (found.contains .json) manifest more

end Command
end ActorManifest
