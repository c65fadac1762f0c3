import ActorManifest.Machine

/-!
# The order of the members of a set

A set keeps its members in the slots of a table and shows them in the order of the slots.  The
residue of a member decides where its search for a free slot begins and how it goes on.  The
table has a power of two of slots and grows when three fifths are taken.  Numbers have the
same residues everywhere, and the residues of all else depend on the machine.
-/

namespace ActorManifest

/-- The modulus of residues, a prime number just below a power of two. -/
def residueModulus : Nat := 0x1FFFFFFFFFFFFFFF

/-- A residue with a sign; the residue next below zero is not used. -/
def signedResidue (negative : Bool) (residue : Nat) : Int :=
  if negative then if residue = 1 then -2 else -(residue : Int) else residue

/-- The residue of a scalar; equal numbers have equal residues. -/
def Scalar.residue [Machine] : Scalar → Int
  | .bool b => if b then 1 else 0
  | .int n => signedResidue (n < 0) (n.natAbs % residueModulus)
  | .float (.infinite negative) => signedResidue negative 314159
  | .float (.finite negative mantissa exponent) =>
    let scale := Nat.pow 2 (exponent.emod 61).toNat
    signedResidue negative (mantissa * scale % residueModulus)
  | s => Machine.residue s

/-- A table of slots, some of which hold a member and its residue. -/
structure SlotTable where
  slots : Array (Option (Nat × Scalar))
  taken : Nat

namespace SlotTable

/-- A table of free slots. -/
def free (size : Nat) : SlotTable :=
  ⟨Array.replicate size none, 0⟩

/-- Whether a slot of the table is free. -/
def isFree (t : SlotTable) (slot : Nat) : Bool :=
  (t.slots.getD slot none).isNone

/-- The slots that are tried from a slot on: ten in a row, or only one near the end. -/
def run (t : SlotTable) (slot : Nat) : List Nat :=
  if slot + 9 < t.slots.size then (List.range 10).map (slot + ·) else [slot]

/-- The free slot that a search finds; the search jumps after each run, and what is left of
the residue moves the jump. -/
def search (t : SlotTable) : (fuel : Nat) → (slot rest : Nat) → Nat
  | 0, slot, _ => slot
  | fuel + 1, slot, rest =>
    match (t.run slot).find? t.isFree with
    | some found => found
    | none =>
      let rest := rest >>> 5
      search t fuel ((slot * 5 + 1 + rest) % t.slots.size) rest

/-- The table with one more member. -/
def insert (t : SlotTable) (member : Nat × Scalar) : SlotTable :=
  let slot := t.search (t.slots.size + 16) (member.1 % t.slots.size) member.1
  ⟨t.slots.setIfInBounds slot (some member), t.taken + 1⟩

/-- The members in the order of their slots. -/
def members (t : SlotTable) : List (Nat × Scalar) :=
  t.slots.toList.filterMap id

/-- The members in a new table with more than a number of slots. -/
def grown (t : SlotTable) (least : Nat) : SlotTable :=
  t.members.foldl insert (free (max 8 (Nat.pow 2 (least.log2 + 1))))

/-- The table with one more member, grown if three fifths of it are taken. -/
def add (t : SlotTable) (member : Nat × Scalar) : SlotTable :=
  let t := t.insert member
  if t.taken * 5 < (t.slots.size - 1) * 3 then t
  else t.grown (if t.taken ≤ 50000 then t.taken * 4 else t.taken * 2)

/-- The table of some members; one of eight slots is used for up to four members. -/
def ofMembers (members : List (Nat × Scalar)) : SlotTable :=
  let count := members.length
  members.foldl add (if count < 5 then free 8 else (free 8).grown (count * 2))

end SlotTable

/-- The members of a set in the order in which they are shown. -/
def slotOrder [Machine] (members : List Scalar) : List Scalar :=
  let entries := members.map fun s => ((s.residue.emod 0x10000000000000000).toNat, s)
  (SlotTable.ofMembers entries).members.map Prod.snd

end ActorManifest
