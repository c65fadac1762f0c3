import ActorManifest.Yaml.Fault
import ActorManifest.Yaml.Graph

/-!
# Merging mappings

A mapping may take over the entries of other mappings, in front of its own, so that its own
win.  Of several mappings in one list the first wins.  Merging is done once and for all: an
entry that asks for it is gone afterwards, and a mapping that is taken over is merged
itself before.  So a mapping that asks for its own entries gets those that it has then.
-/

namespace ActorManifest
namespace Yaml
namespace Graph

/-- The first value that a mapping takes entries from, and the other entries. -/
def takeMerge? (g : Graph) : List (Nat × Nat) → Option (Nat × List (Nat × Nat))
  | [] => none
  | (key, value) :: entries =>
    if g.asksForMerge (key, value) then some (value, entries)
    else (takeMerge? g entries).map fun (found, others) => (found, (key, value) :: others)

/-- The graph in which a key that has the form of the default value stands for itself. -/
def withPlainKey (g : Graph) (key : Nat) : Graph :=
  if g.tag key = .value then g.put key ((g.cell key).withTag .str) else g

/-- The graph in which all keys of a mapping stand for themselves. -/
def withPlainKeys (g : Graph) (number : Nat) : Graph :=
  (g.entries number).foldl (fun g entry => g.withPlainKey entry.1) g

/-- The graph in which a mapping is merged with room for some mappings that are merged into one
another; `fuel` is at least the number of entries that ask for a merge. -/
def merge : (fuel levels : Nat) → Graph → Nat → Except Fault Graph
  | _, 0, _, _ => .error .deepNesting
  | 0, _, g, number => .ok (g.withPlainKeys number)
  | fuel + 1, levels + 1, g, number =>
    match g.takeMerge? (g.entries number) with
    | none => .ok (g.withPlainKeys number)
    | some (value, others) => do
      let g := g.putEntries number others
      let (taken, g) ←
        match g.cell value with
        | .mapping _ _ => do
          let g ← merge fuel levels g value
          pure (g.entries value, g)
        | .sequence _ items =>
          items.foldlM
            (fun (taken, g) item =>
              match g.cell item with
              | .mapping _ _ => do
                let g ← merge fuel levels g item
                pure (g.entries item ++ taken, g)
              | _ => .error .badMerge)
            ([], g)
        | .scalar _ _ => .error .badMerge
      let g ← merge fuel (levels + 1) g number
      return g.putEntries number (taken ++ g.entries number)

end Graph
end Yaml
end ActorManifest
