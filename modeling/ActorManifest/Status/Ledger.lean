import ActorManifest.Status.Condition

/-!
# The ledger of conditions

A ledger holds at most one condition for each phase, in the order in which the phases
were first written.  Writing a condition replaces the one of its phase in place, and a
write that does not change the status keeps the time of the first write that had it.
-/

namespace ActorManifest

/-- A list of conditions without two about the same phase. -/
structure Ledger where
  conditions : List Condition
  onePerPhase : (conditions.map Condition.phase).Nodup
deriving DecidableEq

namespace Ledger

/-- The conditions after a write: in place of the one about the same phase, or at the end. -/
def place (c : Condition) : List Condition → List Condition
  | [] => [c]
  | d :: rest => if d.phase = c.phase then c :: rest else d :: place c rest

/-- The condition about a phase in a list. -/
def find? (phase : Phase) (conditions : List Condition) : Option Condition :=
  conditions.find? fun c => c.phase == phase

/-- A write adds no phase but its own. -/
theorem phase_mem_place {c : Condition} {phase : Phase} {conditions : List Condition} :
    phase ∈ (place c conditions).map Condition.phase ↔
      phase = c.phase ∨ phase ∈ conditions.map Condition.phase := by
  induction conditions with
  | nil => simp [place]
  | cons d rest ih =>
    by_cases hphase : d.phase = c.phase
    · simp [place, hphase]
    · simp only [place, hphase, if_false, List.map_cons, List.mem_cons, ih]
      exact or_left_comm

/-- A write keeps the phases apart. -/
theorem nodup_place {c : Condition} {conditions : List Condition}
    (hnodup : (conditions.map Condition.phase).Nodup) :
    ((place c conditions).map Condition.phase).Nodup := by
  induction conditions with
  | nil => simp [place]
  | cons d rest ih =>
    rw [List.map_cons, List.nodup_cons] at hnodup
    by_cases hphase : d.phase = c.phase
    · simp only [place, hphase, if_true, List.map_cons, List.nodup_cons]
      exact ⟨hphase ▸ hnodup.1, hnodup.2⟩
    · simp only [place, hphase, if_false, List.map_cons, List.nodup_cons]
      refine ⟨fun hmem => ?_, ih hnodup.2⟩
      rcases phase_mem_place.1 hmem with heq | hrest
      · exact hphase heq
      · exact hnodup.1 hrest

/-- The ledger without conditions. -/
def empty : Ledger := ⟨[], List.nodup_nil⟩

/-- The condition about a phase. -/
def get? (l : Ledger) (phase : Phase) : Option Condition :=
  find? phase l.conditions

/-- The condition that a write stores: if the status stays the same, so does the time. -/
def stored (l : Ledger) (c : Condition) : Condition :=
  match l.get? c.phase with
  | some old => if old.asserted = c.asserted then { c with since := old.since } else c
  | none => c

/-- The ledger after a write. -/
def set (l : Ledger) (c : Condition) : Ledger :=
  ⟨place (l.stored c) l.conditions, nodup_place l.onePerPhase⟩

/-- The ledger without the condition about a phase. -/
def erase (l : Ledger) (phase : Phase) : Ledger :=
  ⟨l.conditions.filter fun c => c.phase != phase,
    l.onePerPhase.sublist (List.filter_sublist.map Condition.phase)⟩

/-- The ledger after writing a list of conditions one after another. -/
def setAll (l : Ledger) (conditions : List Condition) : Ledger :=
  conditions.foldl set l

/-- The ledger of a list of conditions. -/
def ofList (conditions : List Condition) : Ledger :=
  empty.setAll conditions

/-- Whether a phase is asserted. -/
def isAsserted (l : Ledger) (phase : Phase) : Bool :=
  (l.get? phase).any Condition.asserted

/-- The asserted phase of the highest rank. -/
def phase? (l : Ledger) : Option Phase :=
  Phase.ranking.find? l.isAsserted

/-- A change of a ledger. -/
inductive Operation where
  | set (c : Condition)
  | erase (phase : Phase)
deriving DecidableEq

/-- The ledger after a change. -/
def apply (l : Ledger) : Operation → Ledger
  | .set c => l.set c
  | .erase phase => l.erase phase

/-- The ledger after a history of changes. -/
def run (l : Ledger) (history : List Operation) : Ledger :=
  history.foldl apply l

/-- Whether two lists of conditions are equal one by one. -/
def sameConditions : List Condition → List Condition → Bool
  | [], [] => true
  | a :: as, b :: bs => a.same b && sameConditions as bs
  | _, _ => false

/-- Whether two ledgers hold equal conditions in the same order. -/
def same (a b : Ledger) : Bool :=
  sameConditions a.conditions b.conditions

/-- The wire form of a ledger; an empty one has no field. -/
def toJson? (l : Ledger) : Option Json :=
  match l.conditions with
  | [] => some (.object [])
  | conditions =>
    (conditions.mapM Condition.toJson?).map fun items =>
      .object (Json.field "conditions" (.array items))

variable [Machine]

/-- The conditions of a list of documents up to the first that is refused, and its refusal. -/
def readConditions : List Document → List Condition × Option Refusal
  | [] => ([], none)
  | d :: rest =>
    match Condition.ofDocument d with
    | .error refusal => ([], some refusal)
    | .ok c =>
      let (conditions, refusal) := readConditions rest
      (c :: conditions, refusal)

/-- The documents of the conditions of a ledger that a document describes.  Whatever counts
as nothing stands for no conditions. -/
def conditionDocuments (d : Document) : Except Refusal (List Document) :=
  match d, d.entries? with
  | .scalar .null, _ => .ok []
  | _, none => .error (.notRecord .ledger)
  | _, some entries =>
    match lookup? "conditions" entries with
    | none => .ok []
    | some d =>
      match d.items? with
      | some items => .ok items
      | none => if d.isEmpty then .ok [] else .error (.notList .ledger "conditions")

/-- The ledger that a document describes, together with the conditions written to it before
a refusal. -/
def read (d : Document) : List Condition × Except Refusal Ledger :=
  match conditionDocuments d with
  | .error refusal => ([], .error refusal)
  | .ok documents =>
    match readConditions documents with
    | (conditions, some refusal) => (conditions, .error refusal)
    | (conditions, none) => (conditions, .ok (ofList conditions))

/-- The ledger that a document describes. -/
def ofDocument (d : Document) : Except Refusal Ledger :=
  (read d).2

end Ledger
end ActorManifest
