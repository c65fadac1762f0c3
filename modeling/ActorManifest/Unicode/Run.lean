import ActorManifest.Text.CodePoint

/-!
# Runs of code points

A property of code points is a sorted list of runs.  A run has a first and a
last member and the distance between neighbours, which is two where the members
of an alphabet alternate between capitals and small letters.
-/

namespace ActorManifest
namespace Unicode

/-- The numbers from `first` to `last` that are a multiple of `step` away from `first`. -/
structure Run where
  first : Nat
  last : Nat
  step : Nat

/-- Whether a number belongs to a run. -/
def Run.holds (r : Run) (n : Nat) : Bool :=
  decide (r.first ≤ n) && decide (n ≤ r.last) && (n - r.first) % r.step == 0

/-- Whether a number belongs to one of the runs of a sorted list. -/
def Run.covers (n : Nat) : List Run → Bool
  | [] => false
  | r :: rest => if n < r.first then false else r.holds n || covers n rest

/-- A run whose members all have a counterpart at the same distance. -/
structure Shift where
  run : Run
  distance : Int

/-- The counterpart of a number by a sorted list of shifts. -/
def Shift.apply (n : Nat) : List Shift → Nat
  | [] => n
  | s :: rest =>
    if n < s.run.first then n
    else if s.run.holds n then (n + s.distance).toNat
    else Shift.apply n rest

end Unicode
end ActorManifest
