import ActorManifest.Command.Run
import ActorManifest.Host.Snapshot

/-!
# The program

The program looks at the system, runs the command on what it found, and writes what the
report says.  Files are looked at in rounds, because the configuration names further ones.
-/

namespace ActorManifest
namespace Program

/-- What stands at a path of the system. -/
def look (p : Path) : IO (Option FileEntry) := do
  match ← (IO.FS.readBinFile p.text.toStringLossy).toBaseIO with
  | .ok content => return some (.file content.toList)
  | .error (.inappropriateType _ code _) => return if code = 21 then some .directory else none
  | .error _ => return none

/-- The text of a file of the system, or none if it has no text. -/
def lookText (name : String) : IO Text := do
  match ← look (Path.ofText name) with
  | some (.file content) => return (Utf8.decode content).toOption.getD []
  | _ => return []

/-- The files after what stands on the way to a path has been looked at. -/
def lookAlong (files : FileTree) (p : Path) : IO FileTree := do
  (files.stations p).foldlM
    (fun files (station, place) => do
      match ← look station with
      | some entry => return files.put place entry
      | none => return files)
    files

/-- The host after the paths that a run may look at have been looked at. -/
def lookAround (arguments : List Text) (host : Host) : IO Host := do
  let files ← (Command.consulted host arguments).foldlM lookAlong host.files
  return { host with files }

/-- The host that the program runs on. -/
def host (arguments : List Text) : IO Host := do
  let workingDirectory := (Path.ofText (← IO.currentDir).toString).names
  let block ← IO.FS.readBinFile "/proc/self/environ"
  let number := userNumber (← lookText "/proc/self/status")
  let start : Host := {
    files := FileTree.ofList workingDirectory []
    environment := Variables.ofBlock block.toList
    users := Users.ofTable (← lookText "/etc/passwd") number }
  lookAround arguments (← lookAround arguments (← lookAround arguments start))

/-- Writes an entry of a file tree to the system. -/
def store (place : Location) : FileEntry → IO Unit
  | .directory => IO.FS.createDir (Path.text ⟨.root, place⟩).toStringLossy
  | .file content =>
    IO.FS.writeBinFile (Path.text ⟨.root, place⟩).toStringLossy (ByteArray.mk content.toArray)

/-- Prints a text on one of the streams of the process. -/
def print (write : Command.Write) : IO Unit := do
  match write.stream with
  | .output => (← IO.getStdout).putStr write.text.toStringLossy
  | .errors => (← IO.getStderr).putStr write.text.toStringLossy

/-- Prints what a report writes, and the use of the program where its arguments could not be
understood. -/
def finish (report : Command.Report) : IO Unit := do
  report.writes.forM print
  match report.ending with
  | .exit _ => return
  | .usage => (Command.usageLines.map Command.complaint).forM print
  | .broken _ => print (Command.complaint "amp: the command could not be completed")

/-- Runs the program and gives its exit code. -/
def run (arguments : List Text) : IO UInt32 := do
  let host ← host arguments
  let report := Command.run host arguments
  (host.files.changes report.files).forM fun (place, entry) => store place entry
  finish report
  return UInt32.ofNat report.exitCode

end Program
end ActorManifest

/-- Runs the program. -/
def main (arguments : List String) : IO UInt32 :=
  ActorManifest.Program.run (arguments.map ActorManifest.Text.ofString)
