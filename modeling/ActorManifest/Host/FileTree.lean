import ActorManifest.Entries
import ActorManifest.Host.Path
import ActorManifest.Text.Utf8

/-!
# Files

A file tree knows the directories and files of a machine by their places below the root,
and the working directory.  A path is followed name by name, and everything on the way
has to be a directory.  Each operation either leads to a place or says why it does not.
-/

namespace ActorManifest

/-- The place of an entry: the names below the root that lead to it. -/
abbrev Location := List Text

/-- What stands at a place. -/
inductive FileEntry where
  | directory
  | file (content : List UInt8)
deriving DecidableEq

/-- Why an operation on a path fails. -/
inductive FileFault where
  | missing
  | notDirectory
  | isDirectory
  | alreadyExists
  | nameTooLong
  /-- The path holds the null character. -/
  | nullCharacter
  /-- The path holds a lone surrogate that stands for no octet. -/
  | notEncodable
deriving DecidableEq

namespace FileFault

/-- The number of a fault that the system reports. -/
def number? : FileFault → Option Nat
  | .missing => some 2
  | .alreadyExists => some 17
  | .notDirectory => some 20
  | .isDirectory => some 21
  | .nameTooLong => some 36
  | .nullCharacter | .notEncodable => none

/-- A fault in words. -/
def phrase : FileFault → String
  | .missing => "No such file or directory"
  | .alreadyExists => "File exists"
  | .notDirectory => "Not a directory"
  | .isDirectory => "Is a directory"
  | .nameTooLong => "File name too long"
  | .nullCharacter => "embedded null byte"
  | .notEncodable => "surrogates not allowed"

end FileFault

/-- The directories and files of a machine. -/
structure FileTree where
  entries : Entries Location FileEntry
  workingDirectory : Location

namespace FileTree

/-- The number of octets of a code point in a name.  Some lone surrogates stand for one
octet that is no text. -/
def nameOctets? : CodePoint → Option Nat
  | .char c => some (Utf8.encodeChar c).length
  | .surrogate offset => if 0x480 ≤ offset.val ∧ offset.val < 0x500 then some 1 else none

/-- The number of octets of a name. -/
def nameLength? (name : Text) : Option Nat :=
  (name.mapM nameOctets?).map fun lengths => lengths.foldl (· + ·) 0

/-- The greatest number of octets of a name. -/
def maxNameLength : Nat := 255

/-- The number of octets that a whole path has to stay below. -/
def pathLimit : Nat := 4096

/-- What stands at a place. -/
def at? (files : FileTree) (place : Location) : Option FileEntry :=
  match place with
  | [] => some .directory
  | place => files.entries.lookup place

/-- The place after one more name. -/
def enter (place : Location) (name : Text) : Location :=
  if name = Path.parentName then place.dropLast else place ++ [name]

/-- The place to which names lead.  The last of them need not exist. -/
def follow (files : FileTree) : Location → List Text → Except FileFault Location
  | place, [] => .ok place
  | place, name :: names =>
    match files.at? place with
    | none => .error .missing
    | some (.file _) => .error .notDirectory
    | some .directory =>
      if maxNameLength < (nameLength? name).getD 0 then .error .nameTooLong
      else follow files (enter place name) names

/-- Where a path begins. -/
def startPlace (files : FileTree) : PathStart → Location
  | .workingDirectory => files.workingDirectory
  | _ => []

/-- The place of a path. -/
def locate (files : FileTree) (p : Path) : Except FileFault Location :=
  match nameLength? p.text with
  | none => .error .notEncodable
  | some length =>
    if p.text.contains (.char '\x00') then .error .nullCharacter
    else if pathLimit ≤ length then .error .nameTooLong
    else files.follow (files.startPlace p.start) p.names

/-- What stands at a path. -/
def entry (files : FileTree) (p : Path) : Except FileFault FileEntry := do
  let place ← files.locate p
  match files.at? place with
  | some entry => return entry
  | none => throw .missing

/-- Whether something stands at a path.  A path that is too long is a fault; one that
cannot be followed leads to nothing. -/
def holds (files : FileTree) (p : Path) : Except FileFault Bool :=
  match files.entry p with
  | .ok _ => .ok true
  | .error .nameTooLong => .error .nameTooLong
  | .error _ => .ok false

/-- Whether a file stands at a path. -/
def isFile (files : FileTree) (p : Path) : Bool :=
  match files.entry p with
  | .ok (.file _) => true
  | _ => false

/-- Whether a directory stands at a path. -/
def isDirectory (files : FileTree) (p : Path) : Bool :=
  match files.entry p with
  | .ok .directory => true
  | _ => false

/-- The octets of the file at a path. -/
def read (files : FileTree) (p : Path) : Except FileFault (List UInt8) := do
  match ← files.entry p with
  | .file content => return content
  | .directory => throw .isDirectory

/-- The files after an entry is put at a place. -/
def put (files : FileTree) (place : Location) (entry : FileEntry) : FileTree :=
  { files with entries := Entries.put (· == ·) place entry files.entries }

/-- The files after the file at a path is written. -/
def write (files : FileTree) (p : Path) (content : List UInt8) : Except FileFault FileTree := do
  let place ← files.locate p
  match files.at? place with
  | some .directory => throw .isDirectory
  | _ => return files.put place (.file content)

/-- The files after a directory is made where nothing stands. -/
def makeDirectory (files : FileTree) (p : Path) : Except FileFault FileTree := do
  let place ← files.locate p
  match files.at? place with
  | some _ => throw .alreadyExists
  | none => return files.put place .directory

/-- The files after a directory is made unless it exists. -/
def ensureDirectory (files : FileTree) (p : Path) : Except FileFault FileTree :=
  match files.makeDirectory p with
  | .error fault => if files.isDirectory p then .ok files else .error fault
  | .ok files => .ok files

/-- The files after an operation, and its fault if it fails; then it changes nothing. -/
def attempted (files : FileTree) : Except FileFault FileTree → FileTree × Option FileFault
  | .ok changed => (changed, none)
  | .error fault => (files, some fault)

/-- The files after a directory and all directories on the way to it are made unless they
exist; the names are given from the last to the first.  What was made before a fault stays. -/
def ensureDirectories (start : PathStart) (files : FileTree) :
    List Text → FileTree × Option FileFault
  | [] => files.attempted (files.ensureDirectory ⟨start, []⟩)
  | name :: above =>
    match files.ensureDirectory ⟨start, (name :: above).reverse⟩ with
    | .error .missing =>
      match ensureDirectories start files above with
      | (files, none) =>
        files.attempted (files.ensureDirectory ⟨start, (name :: above).reverse⟩)
      | failed => failed
    | result => files.attempted result

/-- The files after a new directory is made, and all that are missing on the way to it.  What
was made before a fault stays. -/
def makeDirectories (files : FileTree) (p : Path) : FileTree × Option FileFault :=
  match files.makeDirectory p with
  | .error .missing =>
    match ensureDirectories p.start files p.names.dropLast.reverse with
    | (files, none) => files.attempted (files.makeDirectory p)
    | failed => failed
  | result => files.attempted result

/-- The places on the way to a place, the place itself included. -/
def waysTo (place : Location) : List Location :=
  (List.range place.length).map fun n => place.take (n + 1)

/-- The files after an entry is put at a place below directories. -/
def plant (files : FileTree) (place : Location) (entry : FileEntry) : FileTree :=
  ((waysTo place.dropLast).foldl (fun files way => files.put way .directory) files).put place entry

/-- The files of a machine whose working directory holds the given entries. -/
def ofList (workingDirectory : Location) (entries : List (Path × FileEntry)) : FileTree :=
  entries.foldl (fun files (p, entry) => files.plant (workingDirectory ++ p.names) entry)
    ((waysTo workingDirectory).foldl (fun files way => files.put way .directory)
      ⟨[], workingDirectory⟩)

end FileTree

/-- Why there is no text in a file. -/
inductive ReadFault where
  | file (fault : FileFault)
  /-- The octets of the file are no text. -/
  | encoding (fault : Utf8.Fault)
deriving DecidableEq

/-- The text of the file at a path, with one sign for every line break. -/
def FileTree.readText (files : FileTree) (p : Path) : Except ReadFault Text := do
  let octets ← (files.read p).mapError .file
  let text ← (Utf8.decode octets).mapError .encoding
  return text.unifyLineBreaks

end ActorManifest
