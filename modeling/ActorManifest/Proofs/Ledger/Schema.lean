import ActorManifest.Proofs.Ledger.Reached
import ActorManifest.Proofs.Schema

/-!
# The schema of conditions and ledgers

A condition must name a phase, a status and a time.  A ledger lists documents that are each
accepted as a condition.  Where the list should be, whatever counts as nothing stands for no
conditions, be it a list or not.
-/

namespace ActorManifest

open Document DocumentEntries

/-! ## Conditions -/

/-- The document is the name of a phase. -/
def Phase.IsNamed (d : Document) : Prop :=
  ∃ phase : Phase, d = .text phase.name

theorem Phase.ofName?_eq_some_iff {t : Text} {phase : Phase} :
    ofName? t = some phase ↔ t = phase.name := by
  constructor
  · intro hphase
    have hname := List.find?_some hphase
    exact (eq_of_beq hname).symm
  · rintro rfl
    cases phase <;> rfl

theorem Phase.settled_ofDocument [Machine] (d : Document) :
    IsSettledBy (IsNamed d) d.IsShowable (ofDocument d) := by
  unfold ofDocument
  split
  · rename_i t
    unfold ofName
    split
    · rename_i phase hphase
      exact .accepted ⟨phase, by rw [ofName?_eq_some_iff.mp hphase]⟩
    · rename_i hnone
      refine .refused (by simp) ?_
      rintro ⟨phase, heq⟩
      cases heq
      rw [ofName?_eq_some_iff.mpr rfl] at hnone
      cases hnone
  · rename_i hother
    have hnamed : ¬IsNamed d := by
      rintro ⟨phase, rfl⟩
      exact hother _ rfl
    exact settled_shownOr id (by simp) hnamed

namespace Condition

/-- The document asserts or retracts. -/
def IsStatus (d : Document) : Prop :=
  ∃ asserted, d = .text (statusText asserted)

/-- The document is shown as a timestamp. -/
def IsTime [Machine] (d : Document) : Prop :=
  ∃ t since, d.toText = .ok t ∧ Timestamp.read t = .ok since

/-- The entries that describe a condition. -/
structure Schema [Machine] (entries : DocumentEntries) : Prop where
  phase : entries.Requires Phase.IsNamed "type"
  status : entries.Requires IsStatus "status"
  since : entries.Requires IsTime "lastTransitionTime"
  reason : entries.Allows IsText "reason"
  message : entries.Allows IsText "message"
  generation : entries.Allows IsInteger "observedGeneration"

theorem settled_present {field : String} {entries : DocumentEntries} {showable : Prop} :
    IsSettledBy (∃ d, lookup? field entries = some d) showable (present field entries) := by
  unfold present
  split
  · rename_i d hentry
    exact .accepted ⟨d, hentry⟩
  · rename_i hentry
    refine .refused (by simp) ?_
    simp [hentry]

theorem lookup?_of_present {field : String} {entries : DocumentEntries} {d : Document}
    (hpresent : present field entries = .ok d) : lookup? field entries = some d := by
  unfold present at hpresent
  split at hpresent
  · rename_i hentry
    cases hpresent
    exact hentry
  · cases hpresent

theorem settled_timeOf [Machine]
    (d : Document) : IsSettledBy (IsTime d) d.IsShowable (timeOf d) := by
  have hunread : ∀ {fault : ShowFault}, d.toText = .error fault → ¬IsTime d := by
    rintro fault hfault ⟨t, since, htext, -⟩
    rw [hfault] at htext
    cases htext
  unfold timeOf
  split
  · rename_i hlong
    exact .refused (by simp) (hunread hlong)
  · rename_i hdeep
    exact .unshown .deepNesting (not_isShowable_of_toText hdeep)
  · rename_i t htext
    cases hread : Timestamp.read t with
    | ok since => exact .accepted ⟨t, since, htext, hread⟩
    | error fault =>
        refine .refused (by simp) ?_
        rintro ⟨other, since, htext', hread'⟩
        rw [htext] at htext'
        cases htext'
        rw [hread] at hread'
        cases hread'

theorem status?_eq_some_iff {t : Text} {asserted : Bool} :
    status? t = some asserted ↔ t = statusText asserted := by
  have hdiffer : statusText true ≠ statusText false := by decide
  unfold status?
  by_cases htrue : t = statusText true
  · cases asserted <;> simp [htrue, hdiffer]
  · by_cases hfalse : t = statusText false
    · cases asserted <;> simp [hfalse, hdiffer.symm]
    · cases asserted <;> simp [htrue, hfalse]

theorem settled_statusOf [Machine] (phase : Phase) (d : Document) :
    IsSettledBy (IsStatus d) d.IsShowable (statusOf phase d) := by
  unfold statusOf
  split
  · rename_i t
    cases hstatus : status? t with
    | some asserted => exact .accepted ⟨asserted, by rw [status?_eq_some_iff.mp hstatus]⟩
    | none =>
        refine settled_shownOr id (by simp) ?_
        rintro ⟨asserted, heq⟩
        cases heq
        rw [status?_eq_some_iff.mpr rfl] at hstatus
        cases hstatus
  · rename_i hother
    refine settled_shownOr id (by simp) ?_
    rintro ⟨asserted, rfl⟩
    exact hother _ rfl

theorem settled_ofDocument [Machine] (d : Document) :
    IsSettledBy (d.IsMapping Schema) d.IsShowable (ofDocument d) := by
  refine settled_record fun entries => ?_
  -- What was found to be present is read later, so its schema is put where it is read.
  have hread : ∀ {α : Type} {field : String} {kind : Document → Prop} {found : Document}
      {outcome : Except Refusal α}, IsSettledBy (kind found) found.IsShowable outcome →
      present field entries = .ok found →
        IsSettledBy (entries.Requires kind field) entries.IsShowable outcome := by
    intro α field kind found outcome hsettled hpresent
    have hentry := lookup?_of_present hpresent
    refine (hsettled.weaken fun hshow => isShowable_of_lookup? hshow hentry).of_iff ?_
    rw [requires_iff_of_some hentry]
  refine .of_iff (.bind settled_present fun phase hphase => .bind settled_present
    fun status hstatus => .bind settled_present fun time htime =>
    .bind (hread (settled_timeOf time) htime) fun since _ =>
    .bind (hread (Phase.settled_ofDocument phase) hphase) fun phase _ =>
    .bind Field.settled_textOrEmpty fun reason _ => .bind Field.settled_textOrEmpty
    fun message _ => .bind Field.settled_integer? fun generation _ =>
    .bind (hread (settled_statusOf phase status) hstatus) fun asserted _ => .pure _) ⟨?_, ?_⟩
  · rintro ⟨-, -, -, hsince, hphase, hreason, hmessage, hgeneration, hstatus, -⟩
    exact ⟨hphase, hstatus, hsince, hreason, hmessage, hgeneration⟩
  · rintro ⟨hphase, hstatus, hsince, hreason, hmessage, hgeneration⟩
    obtain ⟨phase, hphase', -⟩ := id hphase
    obtain ⟨status, hstatus', -⟩ := id hstatus
    obtain ⟨since, hsince', -⟩ := id hsince
    exact ⟨⟨_, hphase'⟩, ⟨_, hstatus'⟩, ⟨_, hsince'⟩, hsince, hphase, hreason, hmessage,
      hgeneration, hstatus, trivial⟩

/-- The document is accepted as a condition. -/
def IsAccepted [Machine] (d : Document) : Prop :=
  ∃ c, ofDocument d = .ok c

end Condition

/-! ## Ledgers -/

namespace Ledger

/-- The entries that describe a ledger, given what stands for no conditions. -/
def Schema [Machine] (absence : Document → Prop) (entries : DocumentEntries) : Prop :=
  entries.AllowsBeside absence (IsListOf Condition.IsAccepted) "conditions"

/-- Conditions are read up to the first that is refused, and its refusal counts. -/
theorem mapM_ofDocument_eq [Machine] (documents : List Document) :
    documents.mapM Condition.ofDocument =
      match readConditions documents with
      | (_, some refusal) => .error refusal
      | (conditions, none) => .ok conditions := by
  induction documents with
  | nil => rfl
  | cons d rest ih =>
      rw [List.mapM_cons, readConditions]
      cases Condition.ofDocument d with
      | error refusal => rfl
      | ok c =>
          rw [ih]
          rcases readConditions rest with ⟨conditions, _ | refusal⟩ <;> rfl

theorem ofDocument_eq_bind [Machine] (d : Document) :
    ofDocument d = (conditionDocuments d >>= fun documents =>
      (documents.mapM Condition.ofDocument).map ofList) := by
  unfold ofDocument read
  cases conditionDocuments d with
  | error refusal => rfl
  | ok documents =>
      simp only [bind, Except.bind, mapM_ofDocument_eq]
      rcases readConditions documents with ⟨conditions, _ | refusal⟩ <;> rfl

theorem settled_conditions [Machine] {items : List Document} {showable : Prop}
    (hshow : showable → ∀ item ∈ items, item.IsShowable) :
    IsSettledBy (∀ item ∈ items, Condition.IsAccepted item) showable
      ((items.mapM Condition.ofDocument).map ofList) := by
  refine (Field.settled_items (fun item => ?_) hshow).map ofList
  exact (Condition.settled_ofDocument item).accepts

theorem settled_ofDocument [Machine] (d : Document) :
    IsSettledBy (d = .null ∨ d.IsMapping (Schema (·.isEmpty = true))) d.IsShowable
      (ofDocument d) := by
  rw [ofDocument_eq_bind]
  unfold conditionDocuments
  split
  · exact .accepted (.inl rfl)
  · rename_i hnull hentries
    refine .refused (by simp) ?_
    rintro (rfl | hmapping)
    · exact hnull rfl
    · exact not_isMapping hentries hmapping
  · rename_i d _ _ entries hnull hentries
    have hiff : d = .null ∨ d.IsMapping (Schema (·.isEmpty = true)) ↔
        Schema (·.isEmpty = true) entries := by
      rw [isMapping_iff hentries]
      exact or_iff_right hnull
    refine IsSettledBy.of_iff ?_ hiff.symm
    split
    · rename_i hnone
      refine .accepted ?_
      intro found hfound
      rw [hnone] at hfound
      cases hfound
    · rename_i listed hlisted
      have hlistedShow :=
        fun hshow => isShowable_of_lookup? (isShowable_of_entries? hshow hentries) hlisted
      split
      · rename_i items hitems
        refine (settled_conditions fun hshow =>
          isShowable_of_items? (hlistedShow hshow) hitems).of_iff ?_
        constructor
        · intro hall found hfound
          rw [hlisted] at hfound
          cases hfound
          exact .inr ((isListOf_iff hitems).mpr hall)
        · intro hschema
          rcases hschema _ hlisted with hempty | hlist
          · rw [items_eq_nil_of_isEmpty hempty hitems]
            exact List.forall_mem_nil _
          · exact (isListOf_iff hitems).mp hlist
      · rename_i hitems
        split
        · rename_i hempty
          refine .accepted ?_
          intro found hfound
          rw [hlisted] at hfound
          cases hfound
          exact .inl hempty
        · rename_i hfull
          refine .refused (by simp) ?_
          intro hschema
          rcases hschema _ hlisted with hempty | hlist
          · exact hfull hempty
          · exact not_isListOf hitems hlist

end Ledger
end ActorManifest
