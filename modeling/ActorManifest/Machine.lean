import ActorManifest.Document.Scalar

/-!
# Machines

What a program finds on the machine that runs it.  Values that are nested in one another are
read, shown and written by steps inside steps.  A machine has room for only so many of these,
and for fewer where the program has already gone deep.  The members of a set that are no
numbers have residues that differ from machine to machine.
-/

namespace ActorManifest

/-- The levels for which every machine has room. -/
def leastLevels : Nat := 16

/-- What a program finds on its machine. -/
class Machine where
  /-- The levels of nodes that are read of a YAML text. -/
  nodeLevels : Nat
  /-- The mappings that are followed where each of them refers to the next one for its
  entries or for its default value. -/
  chainLevels : Nat
  /-- The levels of arrays and objects that are read of a JSON text. -/
  valueLevels : Nat
  /-- The levels of a document that are shown. -/
  shownLevels : Nat
  /-- The levels of a document that are written as JSON. -/
  writtenLevels : Nat
  /-- The residue of a scalar that is no number. -/
  residue : Scalar → Int
  le_nodeLevels : leastLevels ≤ nodeLevels
  le_chainLevels : leastLevels ≤ chainLevels
  le_valueLevels : leastLevels ≤ valueLevels
  /-- Showing a document takes no more room than reading it from a JSON text. -/
  valueLevels_le_shownLevels : valueLevels ≤ shownLevels
  le_writtenLevels : leastLevels ≤ writtenLevels

theorem Machine.chainLevels_pos [Machine] : 0 < Machine.chainLevels :=
  Nat.lt_of_lt_of_le (by decide) Machine.le_chainLevels

theorem Machine.le_shownLevels [Machine] : leastLevels ≤ Machine.shownLevels :=
  Nat.le_trans Machine.le_valueLevels Machine.valueLevels_le_shownLevels

/-- A machine with the room that is there before a program goes deep. -/
instance Machine.usual : Machine where
  nodeLevels := 490
  chainLevels := 970
  valueLevels := 990
  shownLevels := 990
  writtenLevels := 970
  residue := fun _ => 0
  le_nodeLevels := by decide
  le_chainLevels := by decide
  le_valueLevels := by decide
  valueLevels_le_shownLevels := by decide
  le_writtenLevels := by decide

end ActorManifest
