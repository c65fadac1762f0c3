import ActorManifest.Manifest
import ActorManifest.Notice
import ActorManifest.Text.Case

/-!
# Manifest files

The name of a file tells the format of the manifest in it, in letters of either case.
-/

namespace ActorManifest
namespace Manifest

/-- The formats by the endings of names. -/
def formats : List (String × Format) :=
  [(".yaml", .yaml), (".yml", .yaml), (".json", .json)]

/-- The format of the manifest at a path. -/
def formatOf? (p : Path) : Option Format :=
  (formats.find? fun entry => Text.ofString entry.1 == p.suffix.lower).map Prod.snd

/-- The failure of a file that holds no text. -/
def unreadable (p : Path) : ReadFault → Failure
  | .encoding fault => .manifest (.encoding p fault)
  | .file fault =>
    match fault.number? with
    | some number => .manifest (.unreadable p number fault.phrase)
    | none => .broken (.file fault)

variable [Machine]

/-- The entries of the manifest at a path. -/
def readFile (files : FileTree) (p : Path) : Except Failure DocumentEntries :=
  match formatOf? p with
  | none => .error (.manifest (.unknownSuffix p.name))
  | some format => do
    let text ← (files.readText p).mapError (unreadable p)
    read format text

/-- The actor of the manifest at a path, in a given namespace unless the manifest names one.
Each condition that is written on the way is reported. -/
def load (files : FileTree) (p : Path) (space : Option Text) : Noted Failure Actor :=
  match readFile files p with
  | .error failure => ⟨[], .error failure⟩
  | .ok entries =>
    let (conditions, actor) := Actor.readEntries entries
    let written := conditions.map Notice.conditionSet
    match actor with
    | .error refusal => ⟨written, .error (.ofRefusal refusal)⟩
    | .ok actor => ⟨written ++ [.actorLoaded actor.name p], .ok (actor.within space)⟩

end Manifest
end ActorManifest
