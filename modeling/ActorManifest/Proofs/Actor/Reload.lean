import ActorManifest.Proofs.Actor.Agreement
import ActorManifest.Proofs.Ledger.Reload
import ActorManifest.Proofs.Spec.RoundTrip

/-!
# Actors that are saved and loaded in the middle of a run

An actor is written and read back as one that agrees with it, provided that it has a name,
an accepted spec and times whose years have four digits.  An actor that was read from a
document has the first two, and steps that bring no other times or specs keep all three.  So
a run may be interrupted at any of its points by saving and loading the actor, and what it
reaches agrees with what the run reaches without interruption.
-/

namespace ActorManifest
namespace Actor

open Document

/-! ## Writing and reading -/

/-- The actor that is read from what an actor is written to. -/
def reload? [Machine] (a : Actor) : Option Actor :=
  a.toJson?.bind fun j => (Actor.ofDocument (.ofJson j)).toOption

/-- What an actor needs in order to be read back. -/
structure IsWritable [Machine] (a : Actor) : Prop where
  named : a.name ≠ []
  accepted : a.spec.IsAccepted
  dated : a.status.IsDated

theorem requireText_of_lookup [Machine]
    {field : String} {t : Text} {refusal : Text → Refusal} {entries : DocumentEntries}
    (hentry : lookup? field entries = some (.ofJson (.text t))) :
    requireText field t refusal entries = .ok () := by
  simp [requireText, hentry, ofJson]

/-- The actor with the times of its conditions rounded down to the second. -/
def roundedDown (a : Actor) : Actor :=
  { a with status := a.status.roundedDown }

/-- The status is read back from its field, which a ledger without conditions lacks. -/
theorem exists_read_status [Machine]
    {a : Actor} (hdated : a.status.IsDated) :
    ∃ status, a.status.toJson? = some status ∧
      Ledger.ofDocument
        ((if a.status.conditions.isEmpty then none else some (ofJson status)).getD .null) =
          .ok a.status.roundedDown := by
  by_cases hlisted : a.status.conditions = []
  · have hempty : a.status = .empty := Ledger.ext hlisted
    rw [hempty]
    exact ⟨_, rfl, Ledger.ofDocument_null⟩
  · obtain ⟨status, hstatus, hread⟩ := Ledger.exists_ofDocument_toJson hlisted hdated
    refine ⟨status, hstatus, ?_⟩
    rw [if_neg (by simpa using hlisted), Option.getD_some]
    exact hread

theorem metadataOf_of_lookup
    {entries : DocumentEntries} {metadata : List (Text × Json)}
    (hentry : lookup? "metadata" entries = some (.ofJson (.object metadata))) :
    metadataOf entries = .ok (ofJsonFields metadata) := by
  simp only [metadataOf, hentry, entries?_ofJson_object]

/-- The identity, the spec and the generation are read back as they are. -/
theorem readFrame_of_lookup [Machine]
    {a : Actor} {entries metadata : DocumentEntries} (hwritable : a.IsWritable)
    (hkind : lookup? "kind" entries = some (.ofJson (.text kind)))
    (hversion : lookup? "apiVersion" entries = some (.ofJson (.text apiVersion)))
    (hspec : lookup? "spec" entries = some (.ofJson a.spec.toJson))
    (hmetadata : metadataOf entries = .ok metadata)
    (hname : lookup? "name" metadata = some (.ofJson (.text a.name)))
    (hspace : lookup? "namespace" metadata = a.space.map fun t => .ofJson (.text t))
    (hgeneration : lookup? "generation" metadata =
      a.generation.map fun n => .ofJson (.int n)) :
    readFrame entries = .ok { a with status := .empty } := by
  have hdistinct := Spec.isAccepted_iff_hasDistinctNames.mp hwritable.accepted
  simp only [readFrame, bind, Except.bind, pure, Except.pure,
    requireText_of_lookup hkind, requireText_of_lookup hversion, hspec, hmetadata,
    Spec.ofDocument_toJson hdistinct, Field.integer?_of_lookup hgeneration,
    Field.textOrEmpty_of_lookup hname, Field.text?_of_lookup hspace,
    if_neg hwritable.named]

/-- A full document is read in two parts: everything but the status, and the status. -/
theorem readFull_eq_ok_iff [Machine] {entries : DocumentEntries} {a : Actor} :
    (readFull entries).2 = .ok a ↔
      ∃ frame l, readFrame entries = .ok frame ∧
        Ledger.ofDocument ((lookup? "status" entries).getD .null) = .ok l ∧
        { frame with status := l } = a := by
  unfold readFull
  cases hframe : readFrame entries with
  | error refusal => simp
  | ok frame =>
      change (Ledger.ofDocument _).map _ = _ ↔ _
      simp [map_eq_ok_iff]

/-- The document that an actor is written to describes the actor with its times rounded
down. -/
theorem exists_readFull_fields [Machine] {a : Actor} (hwritable : a.IsWritable) :
    ∃ fields, a.fields? = some fields ∧
      (readFull (ofJsonFields fields)).2 = .ok a.roundedDown := by
  obtain ⟨status, hstatus, hread⟩ := exists_read_status hwritable.dated
  refine ⟨_, by rw [fields?, hstatus, Option.map_some], ?_⟩
  generalize hmetadata : Json.field "name" (.text a.name) ++ _ ++ _ = metadata
  generalize hentries : ofJsonFields _ = entries
  have hidentity : metadataOf entries = .ok (ofJsonFields metadata) :=
    metadataOf_of_lookup (by simp [← hentries])
  have hframe : readFrame entries = .ok { a with status := .empty } :=
    readFrame_of_lookup hwritable (by simp [← hentries]) (by simp [← hentries])
      (by simp [← hentries]) hidentity (by simp [← hmetadata]) (by simp [← hmetadata])
      (by simp [← hmetadata])
  have hfield : lookup? "status" entries =
      if a.status.conditions.isEmpty then none else some (ofJson status) := by
    simp [← hentries]
  rw [← hfield] at hread
  exact readFull_eq_ok_iff.mpr ⟨_, _, hframe, hread, rfl⟩

/-- An actor is read back as one that agrees with it. -/
theorem exists_reload [Machine] {a : Actor} (hwritable : a.IsWritable) :
    ∃ b, a.reload? = some b ∧ b.AgreesWith a ∧ b.IsWritable := by
  obtain ⟨fields, hfields, hread⟩ := exists_readFull_fields hwritable
  obtain ⟨hagree, hdated⟩ := Ledger.roundedDown_agreesWith hwritable.dated
  refine ⟨a.roundedDown, ?_, ⟨rfl, rfl, rfl, rfl, hagree⟩,
    ⟨hwritable.named, hwritable.accepted, hdated⟩⟩
  rw [reload?, toJson?, hfields, Option.map_some, Option.bind_some, Actor.ofDocument,
    entriesOf_ofJson_object]
  change (readFull (ofJsonFields fields)).2.toOption = _
  rw [hread]
  rfl

/-! ## What actors that were read bring -/

theorem named_accepted_of_readFrame [Machine]
    {entries : DocumentEntries} {a : Actor} (hread : readFrame entries = .ok a) :
    a.name ≠ [] ∧ a.spec.IsAccepted := by
  unfold readFrame at hread
  simp only [bind_eq_ok_iff] at hread
  obtain ⟨-, -, -, -, hread⟩ := hread
  split at hread
  · cases hread
  · simp only [bind_eq_ok_iff] at hread
    obtain ⟨spec, hspec, metadata, -, generation, -, name, -, space, -, ha⟩ := hread
    cases ha
    refine ⟨?_, _, hspec⟩
    change (if name = [] then spec.name else name) ≠ []
    split
    · exact spec.identified.1
    · assumption

/-- An actor that was read from a manifest has a name and an accepted spec. -/
theorem named_accepted_of_ofEntries [Machine]
    {entries : DocumentEntries} {space : Option Text} {a : Actor}
    (hread : Actor.ofEntries entries space = .ok a) :
    a.name ≠ [] ∧ a.spec.IsAccepted := by
  obtain ⟨b, hb, rfl⟩ := map_eq_ok_iff.mp hread
  unfold readEntries at hb
  split at hb
  · obtain ⟨frame, l, hframe, -, rfl⟩ := readFull_eq_ok_iff.mp hb
    obtain ⟨hnamed, haccepted⟩ := named_accepted_of_readFrame hframe
    exact ⟨hnamed, haccepted⟩
  · obtain ⟨spec, hspec, rfl⟩ := map_eq_ok_iff.mp hb
    exact ⟨spec.identified.1, _, hspec⟩

/-! ## Steps -/

/-- The time that a step brings has a year of four digits, and the spec is accepted. -/
def Step.IsAdmissible [Machine] : Step → Prop
  | .set c => c.since.HasFourDigitYear
  | .change operation => operation.IsDated
  | .regenerate _ => True
  | .respec spec => spec.IsAccepted

/-- An admissible step keeps what an actor needs in order to be read back. -/
theorem isWritable_apply [Machine]
    {a : Actor} {step : Step} (hwritable : a.IsWritable) (hstep : step.IsAdmissible) :
    (a.apply step).IsWritable := by
  cases step with
  | set c => exact { hwritable with dated := Ledger.isDated_set hwritable.dated hstep }
  | change operation =>
      exact { hwritable with dated := Ledger.isDated_apply hwritable.dated hstep }
  | regenerate generation => exact { hwritable with }
  | respec spec => exact { hwritable with accepted := hstep }

/-! ## Interrupted runs -/

/-- A move of a run that may be interrupted: a step, or saving and loading the actor. -/
inductive Move where
  | take (step : Step)
  | reload

/-- The step of a move, if it is one. -/
def Move.step? : Move → Option Step
  | .take step => some step
  | .reload => none

/-- The actor after a move. -/
def move? [Machine] (a : Actor) : Move → Option Actor
  | .take step => some (a.apply step)
  | .reload => a.reload?

/-- The actor after an interrupted run. -/
def interruptedRun? [Machine] (a : Actor) (moves : List Move) : Option Actor :=
  moves.foldlM move? a

/-- Every move succeeds on an actor that can be read back, and the actor still agrees with
one that took the step of the move alone. -/
theorem exists_move [Machine]
    {a b : Actor} {move : Move} (hagree : a.AgreesWith b) (hwritable : a.IsWritable)
    (hmove : ∀ step ∈ move.step?, step.IsAdmissible) :
    ∃ c, a.move? move = some c ∧ c.AgreesWith (b.run move.step?.toList) ∧ c.IsWritable := by
  cases move with
  | take step =>
      exact ⟨a.apply step, rfl, apply_of_agreesWith hagree step,
        isWritable_apply hwritable (hmove step rfl)⟩
  | reload =>
      obtain ⟨c, hc, hreload, hwritable⟩ := exists_reload hwritable
      exact ⟨c, hc, hreload.trans hagree, hwritable⟩

/-- An interrupted run succeeds and agrees with the run that is not interrupted. -/
theorem exists_interruptedRun [Machine]
    {a b : Actor} {moves : List Move} (hagree : a.AgreesWith b) (hwritable : a.IsWritable)
    (hmoves : ∀ step ∈ moves.filterMap Move.step?, step.IsAdmissible) :
    ∃ c, a.interruptedRun? moves = some c ∧
      c.AgreesWith (b.run (moves.filterMap Move.step?)) ∧ c.IsWritable := by
  -- Loading replaces one of the two actors only, so the induction is about both.
  induction moves generalizing a b with
  | nil => exact ⟨a, rfl, hagree, hwritable⟩
  | cons move rest ih =>
      have hsteps : (move :: rest).filterMap Move.step? =
          move.step?.toList ++ rest.filterMap Move.step? := by
        cases move <;> rfl
      rw [hsteps] at hmoves ⊢
      obtain ⟨c, hc, hagree, hwritable⟩ := exists_move hagree hwritable
        fun step hstep => hmoves step (List.mem_append_left _ (by simpa using hstep))
      obtain ⟨d, hd, hagree, hwritable⟩ := ih hagree hwritable
        fun step hstep => hmoves step (List.mem_append_right _ hstep)
      refine ⟨d, ?_, ?_, hwritable⟩
      · rw [interruptedRun?, List.foldlM_cons, hc]
        exact hd
      · rw [run_append]
        exact hagree

/-- Saving and loading an actor in the middle of a run cannot be seen.  From an actor that
was read from a manifest, an interrupted run of admissible steps succeeds, and at each of its
points the actor looks like the one that the steps alone have reached by then. -/
theorem exists_interruptedRun_of_ofEntries [Machine]
    {entries : DocumentEntries} {space : Option Text} {a : Actor} {moves : List Move}
    (hread : Actor.ofEntries entries space = .ok a) (hdated : a.status.IsDated)
    (hmoves : ∀ step ∈ moves.filterMap Move.step?, step.IsAdmissible) :
    ∀ before, before <+: moves → ∃ b, a.interruptedRun? before = some b ∧
      b.LooksLike (a.run (before.filterMap Move.step?)) := by
  intro before hbefore
  obtain ⟨hnamed, haccepted⟩ := named_accepted_of_ofEntries hread
  have hsteps : ∀ step ∈ before.filterMap Move.step?, step.IsAdmissible :=
    fun step hstep => hmoves step ((hbefore.filterMap Move.step?).mem hstep)
  obtain ⟨b, hb, hagree, -⟩ :=
    exists_interruptedRun (.refl a) ⟨hnamed, haccepted, hdated⟩ hsteps
  exact ⟨b, hb, hagree.looksLike⟩

/-- A status that is asserted before the actor is saved and again after it is loaded. -/
theorem exists_interruptedRun_of_ofEntries_asserted_again :
    let entries : DocumentEntries := [
      (.text "kind", .text "Actor"),
      (.text "spec", .mapping [
        (.text "name", .text "web"), (.text "repository", .text "r"),
        (.text "commit", .text "c")]),
      (.text "status", .mapping [(.text "conditions", .list [.mapping [
        (.text "type", .text "Running"), (.text "status", .text "True"),
        (.text "lastTransitionTime", .text "2024-05-01T10:00:00.5+02:00")]])])]
    let still := Condition.write .running true "Up" [] ⟨⟨2024, 5, 2, by decide⟩, .midnight, none⟩
    let moves : List Move :=
      [.reload, .take (.regenerate (some 3)), .take (.set still), .reload]
    ∃ a b, Actor.ofEntries entries none = .ok a ∧ a.interruptedRun? moves = some b ∧
      b.LooksLike ((a.apply (.regenerate (some 3))).apply (.set still)) := by
  intro entries still moves
  obtain ⟨a, hread, hdated⟩ :
      ∃ a, Actor.ofEntries entries none = .ok a ∧ a.status.IsDated :=
    ⟨_, rfl, by decide +kernel⟩
  have hstill : still.since.HasFourDigitYear := by decide +kernel
  have hmoves : ∀ step ∈ moves.filterMap Move.step?, step.IsAdmissible := by
    intro step hstep
    rcases List.mem_pair.mp hstep with rfl | rfl
    · trivial
    · exact hstill
  obtain ⟨b, hb, hlooks⟩ :=
    exists_interruptedRun_of_ofEntries hread hdated hmoves moves (List.prefix_refl moves)
  exact ⟨a, b, hread, hb, hlooks⟩

end Actor
end ActorManifest
