import ActorManifest.Host.Basic
import ActorManifest.Unicode.Blank

/-!
# Snapshots

The forms in which a running system tells about itself: a block of variables, a table of
users, and what stands at the places on the way to a path.  Comparing two file trees gives
the entries that a system has to write.
-/

namespace ActorManifest

/-- The pieces of a block, each of which ends with a zero octet. -/
def blockPieces : List UInt8 → List (List UInt8)
  | [] => []
  | octet :: rest =>
    if octet = 0 then [] :: blockPieces rest
    else
      match blockPieces rest with
      | [] => [[octet]]
      | piece :: pieces => (octet :: piece) :: pieces

/-- The variables in a block. -/
def Variables.ofBlock (block : List UInt8) : Variables :=
  (blockPieces block).filterMap fun piece =>
    (Utf8.decode piece).toOption.bind (Text.cutAt? (.char '='))

/-- The fields of the lines of a table of users: name, password, number, group, comment,
home directory and shell. -/
def userFields (table : Text) : List (List Text) :=
  (table.splitAll (.char '\n')).map (Text.splitAll (.char ':'))

/-- The home directory in the fields of a user. -/
def homeField (fields : List Text) : Option Text :=
  fields[5]?

/-- The users in a table, where a number tells which of them runs the process. -/
def Users.ofTable (table number : Text) : Users where
  ownHome :=
    (((userFields table).find? fun fields => fields[2]? == some number).bind homeField).getD "/"
  homes := (userFields table).filterMap fun fields => do
    return (← fields.head?, ← homeField fields)

/-- The number of the user who runs a process, from the description of the process. -/
def userNumber (description : Text) : Text :=
  let lines := description.splitAll (.char '\n')
  let numbers := (lines.findSome? (Text.after? "Uid:")).getD []
  (numbers.dropWhile Unicode.isBlank).takeWhile CodePoint.isAsciiDigit

namespace FileTree

/-- The paths on the way to a path, each with its place. -/
def stations (files : FileTree) (p : Path) : List (Path × Location) :=
  (List.range p.names.length).map fun n =>
    let names := p.names.take (n + 1)
    ({ p with names }, names.foldl enter (files.startPlace p.start))

/-- The entries of one file tree that another one lacks or has otherwise. -/
def changes (before after : FileTree) : List (Location × FileEntry) :=
  after.entries.filter fun (place, entry) => before.at? place != some entry

end FileTree
end ActorManifest
