import ActorManifest.Proofs.Document.Showable
import ActorManifest.Proofs.Fields
import ActorManifest.Proofs.Outcome

/-!
# Schemas

A schema says what a document must be in order to be read, and says it of the document alone:
which entries a mapping must or may have, and of what kind they are.  Reading is settled by a
schema if it succeeds on the documents that satisfy the schema and finds fault with all
others.  The one exception is a document that would have to be shown and cannot.  Readers that
are settled by their schemas can be put together, as the schemas are.
-/

namespace ActorManifest

open Document

/-! ## Settled outcomes -/

/-- The refusal is a finding about the document. -/
@[simp]
def Refusal.IsFinding (refusal : Refusal) : Prop :=
  refusal ≠ .longNumber ∧ refusal ≠ .deepNesting

/-- The outcome of reading is a success under a condition and a finding otherwise, unless
something that is read cannot be shown. -/
inductive IsSettledBy {α : Type} (condition showable : Prop) : Except Refusal α → Prop
  | accepted {a : α} (hcondition : condition) : IsSettledBy condition showable (.ok a)
  | refused {refusal : Refusal} (hfinding : refusal.IsFinding) (hcondition : ¬condition) :
      IsSettledBy condition showable (.error refusal)
  | unshown (fault : ShowFault) (hshow : ¬showable) :
      IsSettledBy condition showable (.error (.ofShowFault fault))

namespace IsSettledBy

variable {α β : Type} {condition next showable : Prop} {outcome : Except Refusal α}

theorem weaken
    {weaker : Prop} (hsettled : IsSettledBy condition showable outcome) (hshow : weaker → showable) :
    IsSettledBy condition weaker outcome := by
  cases hsettled with
  | accepted hcondition => exact .accepted hcondition
  | refused hfinding hcondition => exact .refused hfinding hcondition
  | unshown fault hhidden => exact .unshown fault fun hweaker => hhidden (hshow hweaker)

theorem of_iff
    (hsettled : IsSettledBy condition showable outcome) (hiff : condition ↔ next) :
    IsSettledBy next showable outcome := by
  cases hsettled with
  | accepted hcondition => exact .accepted (hiff.mp hcondition)
  | refused hfinding hcondition => exact .refused hfinding fun hnext => hcondition (hiff.mpr hnext)
  | unshown fault hhidden => exact .unshown fault hhidden

theorem map (hsettled : IsSettledBy condition showable outcome) (f : α → β) :
    IsSettledBy condition showable (outcome.map f) := by
  cases hsettled with
  | accepted hcondition => exact .accepted hcondition
  | refused hfinding hcondition => exact .refused hfinding hcondition
  | unshown fault hhidden => exact .unshown fault hhidden

/-- Two steps are settled by both conditions, the second step being taken only after the first
has succeeded. -/
theorem bind
    {f : α → Except Refusal β} (hfirst : IsSettledBy condition showable outcome)
    (hsecond : ∀ a, outcome = .ok a → IsSettledBy next showable (f a)) :
    IsSettledBy (condition ∧ next) showable (outcome >>= f) := by
  cases hfirst with
  | @accepted a hcondition =>
      have hnext := hsecond a rfl
      exact hnext.of_iff ⟨fun hnext => ⟨hcondition, hnext⟩, And.right⟩
  | refused hfinding hcondition => exact .refused hfinding fun hboth => hcondition hboth.1
  | unshown fault hhidden => exact .unshown fault hhidden

theorem pure (a : α) : IsSettledBy True showable (Pure.pure a) :=
  .accepted trivial

/-- Items that are settled one by one are settled together. -/
theorem mapM
    {read : β → Except Refusal α} {p : β → Prop} {items : List β}
    (hitems : ∀ item ∈ items, IsSettledBy (p item) showable (read item)) :
    IsSettledBy (∀ item ∈ items, p item) showable (items.mapM read) := by
  induction items with
  | nil => exact .accepted (List.forall_mem_nil p)
  | cons item rest ih =>
      rw [List.mapM_cons]
      have hrest := ih fun item hitem => hitems item (List.mem_cons_of_mem _ hitem)
      have hall := (hitems item List.mem_cons_self).bind fun a _ =>
        hrest.bind fun as _ => pure (a :: as)
      refine hall.of_iff ?_
      rw [and_true, List.forall_mem_cons]

/-- Acceptance itself is a condition. -/
theorem accepts (hsettled : IsSettledBy condition showable outcome) :
    IsSettledBy (∃ a, outcome = .ok a) showable outcome := by
  cases hsettled with
  | accepted _ => exact .accepted ⟨_, rfl⟩
  | refused hfinding _ => exact .refused hfinding (by simp)
  | unshown fault hhidden => exact .unshown fault hhidden

/-- What can be shown is accepted exactly under the condition, and is found fault with otherwise. -/
theorem exists_ok_iff (hsettled : IsSettledBy condition showable outcome) (hshow : showable) :
    ((∃ a, outcome = .ok a) ↔ condition) ∧
      ∀ refusal, outcome = .error refusal → refusal.IsFinding := by
  cases hsettled with
  | accepted hcondition => simp [hcondition]
  | refused hfinding hcondition =>
      refine ⟨by simp [hcondition], ?_⟩
      rintro refusal heq
      cases heq
      exact hfinding
  | unshown fault hhidden => exact absurd hshow hhidden

end IsSettledBy

/-! ## Kinds of documents -/

namespace Document

/-- The document is text. -/
def IsText (d : Document) : Prop :=
  ∃ t, d = .text t

/-- The document is text that is not empty. -/
def IsFilledText (d : Document) : Prop :=
  ∃ t, t ≠ [] ∧ d = .text t

/-- The document is a whole number; a truth value is none. -/
def IsInteger (d : Document) : Prop :=
  ∃ n, d = .scalar (.int n)

/-- The document is a truth value. -/
def IsTruthValue (d : Document) : Prop :=
  ∃ b, d = .scalar (.bool b)

/-- The document is a list of documents of one kind. -/
def IsListOf (p : Document → Prop) (d : Document) : Prop :=
  ∃ items, d.items? = some items ∧ ∀ item ∈ items, p item

/-- The document is a mapping whose entries follow a schema. -/
def IsMapping (schema : DocumentEntries → Prop) (d : Document) : Prop :=
  ∃ entries, d.entries? = some entries ∧ schema entries

variable {d : Document} {p : Document → Prop} {schema : DocumentEntries → Prop}

theorem isListOf_iff {items : List Document} (hitems : d.items? = some items) :
    d.IsListOf p ↔ ∀ item ∈ items, p item := by
  simp [IsListOf, hitems]

theorem not_isListOf (hitems : d.items? = none) : ¬d.IsListOf p := by
  simp [IsListOf, hitems]

theorem isMapping_iff {entries : DocumentEntries} (hentries : d.entries? = some entries) :
    d.IsMapping schema ↔ schema entries := by
  simp [IsMapping, hentries]

theorem not_isMapping (hentries : d.entries? = none) : ¬d.IsMapping schema := by
  simp [IsMapping, hentries]

/-! ## Documents that count as nothing -/

theorem items_eq_nil_of_isEmpty {d : Document} {items : List Document}
    (hempty : d.isEmpty = true) (hitems : d.items? = some items) : items = [] := by
  cases d with
  | list _ =>
      cases hitems
      exact List.isEmpty_iff.mp hempty
  | scalar _ | pair _ _ | set _ | mapping _ | again _ => cases hitems
  | knot _ _ => cases hempty

theorem entries_eq_nil_of_isEmpty {d : Document} {entries : DocumentEntries}
    (hempty : d.isEmpty = true) (hentries : d.entries? = some entries) : entries = [] := by
  cases d with
  | mapping _ =>
      cases hentries
      exact List.isEmpty_iff.mp hempty
  | scalar _ | pair _ _ | set _ | list _ | again _ => cases hentries
  | knot _ _ => cases hempty

end Document

namespace DocumentEntries

/-- A field is present and of a kind. -/
def Requires (kind : Document → Prop) (field : String) (entries : DocumentEntries) : Prop :=
  ∃ d, lookup? field entries = some d ∧ kind d

/-- A field is absent, stands for absence, or is of a kind. -/
def AllowsBeside (absence kind : Document → Prop) (field : String)
    (entries : DocumentEntries) : Prop :=
  ∀ d, lookup? field entries = some d → absence d ∨ kind d

/-- A field is absent, null, or of a kind. -/
def Allows (kind : Document → Prop) (field : String) (entries : DocumentEntries) : Prop :=
  AllowsBeside (· = .null) kind field entries

/-- No entry has null as its value. -/
def HasNoNull (entries : DocumentEntries) : Prop :=
  ∀ entry ∈ entries, entry.2 ≠ .null

end DocumentEntries

open DocumentEntries

theorem requires_iff_of_some {kind : Document → Prop} {field : String} {entries : DocumentEntries}
    {d : Document} (hentry : lookup? field entries = some d) :
    entries.Requires kind field ↔ kind d := by
  simp [Requires, hentry]

/-! ## Readers of fields -/

/-- What is shown in a message is a finding if the document can be shown. -/
theorem settled_shownOr [Machine]
    {α : Type} {condition showable : Prop} {d : Document} {refusal : Text → Refusal}
    (hshow : showable → d.IsShowable) (hfinding : ∀ t, (refusal t).IsFinding)
    (hcondition : ¬condition) :
    IsSettledBy condition showable (Except.error (shownOr d refusal) : Except Refusal α) := by
  unfold shownOr
  split
  · exact .refused (hfinding _) hcondition
  · rename_i fault hfault
    exact .unshown fault fun h => not_isShowable_of_shown hfault (hshow h)

namespace Field

variable {owner : Owner} {field : String} {entries : DocumentEntries}

theorem settled_filled {showable : Prop} :
    IsSettledBy (entries.Requires IsFilledText field) showable (filled owner field entries) := by
  unfold filled
  split
  · rename_i c rest hentry
    exact .accepted ⟨_, hentry, _, List.cons_ne_nil c rest, rfl⟩
  · rename_i hother
    refine .refused (by simp) ?_
    rintro ⟨_, hentry, _ | ⟨c, rest⟩, hfilled, rfl⟩
    · exact hfilled rfl
    · exact hother c rest hentry

/-- What the readers of optional fields have in common: nothing is read where the field is
absent or null. -/
theorem allows_of_none {kind : Document → Prop} (hentry : lookup? field entries = none) :
    entries.Allows kind field := by
  intro d hd
  rw [hentry] at hd
  cases hd

theorem allows_of_null {kind : Document → Prop} (hentry : lookup? field entries = some .null) :
    entries.Allows kind field := by
  intro d hd
  rw [hentry] at hd
  exact .inl (Option.some.inj hd).symm

theorem allows_iff_of_some
    {kind : Document → Prop} {d : Document} (hentry : lookup? field entries = some d)
    (hnull : d ≠ .null) : entries.Allows kind field ↔ kind d := by
  constructor
  · intro hallows
    exact (hallows d hentry).resolve_left hnull
  · intro hkind e he
    rw [hentry] at he
    cases he
    exact .inr hkind

theorem settled_text? {showable : Prop} :
    IsSettledBy (entries.Allows IsText field) showable (text? owner field entries) := by
  unfold text?
  split
  · rename_i hentry
    exact .accepted (allows_of_none hentry)
  · rename_i hentry
    exact .accepted (allows_of_null hentry)
  · rename_i t hentry
    exact .accepted ((allows_iff_of_some hentry (by simp)).mpr ⟨t, rfl⟩)
  · rename_i d hnull htext hentry
    refine .refused (by simp) ?_
    rw [allows_iff_of_some hentry hnull]
    rintro ⟨t, rfl⟩
    exact htext t rfl

theorem settled_textOrEmpty {showable : Prop} :
    IsSettledBy (entries.Allows IsText field) showable (textOrEmpty owner field entries) :=
  settled_text?.map _

theorem settled_integer? [Machine] :
    IsSettledBy (entries.Allows IsInteger field) entries.IsShowable
      (integer? owner field entries) := by
  unfold integer?
  split
  · rename_i hentry
    exact .accepted (allows_of_none hentry)
  · rename_i hentry
    exact .accepted (allows_of_null hentry)
  · rename_i n hentry
    exact .accepted ((allows_iff_of_some hentry (by simp)).mpr ⟨n, rfl⟩)
  · rename_i d hnull hint hentry
    refine settled_shownOr (fun hshow => isShowable_of_lookup? hshow hentry)
      (by simp) ?_
    rw [allows_iff_of_some hentry hnull]
    rintro ⟨n, rfl⟩
    exact hint n rfl

theorem settled_bool? [Machine] :
    IsSettledBy (entries.Allows IsTruthValue field) entries.IsShowable
      (bool? owner field entries) := by
  unfold bool?
  split
  · rename_i hentry
    exact .accepted (allows_of_none hentry)
  · rename_i hentry
    exact .accepted (allows_of_null hentry)
  · rename_i b hentry
    exact .accepted ((allows_iff_of_some hentry (by simp)).mpr ⟨b, rfl⟩)
  · rename_i d hnull hbool hentry
    refine settled_shownOr (fun hshow => isShowable_of_lookup? hshow hentry)
      (by simp) ?_
    rw [allows_iff_of_some hentry hnull]
    rintro ⟨b, rfl⟩
    exact hbool b rfl

/-- Items of a list that can be shown can be shown themselves, so they may be read by a reader that
is settled on such documents. -/
theorem settled_items [Machine]
    {α : Type} {kind : Document → Prop} {read : Document → Except Refusal α}
    {showable : Prop} {items : List Document}
    (hitem : ∀ item, IsSettledBy (kind item) item.IsShowable (read item))
    (hshow : showable → ∀ item ∈ items, item.IsShowable) :
    IsSettledBy (∀ item ∈ items, kind item) showable (items.mapM read) :=
  .mapM fun item hmem => (hitem item).weaken fun h => hshow h item hmem

theorem settled_list? [Machine]
    {α : Type} {kind : Document → Prop} {read : Document → Except Refusal α}
    (hitem : ∀ item, IsSettledBy (kind item) item.IsShowable (read item)) :
    IsSettledBy (entries.Allows (IsListOf kind) field) entries.IsShowable
      (list? owner field read entries) := by
  unfold list?
  split
  · rename_i hentry
    exact .accepted (allows_of_none hentry)
  · rename_i hentry
    exact .accepted (allows_of_null hentry)
  · rename_i d hnull hentry
    split
    · rename_i items hitems
      have hread := settled_items hitem fun hshow =>
        isShowable_of_items? (isShowable_of_lookup? hshow hentry) hitems
      refine (hread.map some).of_iff ?_
      rw [allows_iff_of_some hentry hnull, isListOf_iff hitems]
    · rename_i hitems
      refine .refused (by simp) ?_
      rw [allows_iff_of_some hentry hnull]
      exact not_isListOf hitems

/-! ## Variables -/

theorem not_isShowable_of_variableText [Machine] {d : Document} {fault : ShowFault}
    (hfault : variableText d = .error fault) : ¬d.IsShowable := by
  unfold variableText at hfault
  split at hfault
  · cases hfault
  · exact not_isShowable_of_toText hfault

theorem settled_variableOf [Machine] (entry : Scalar × Document) :
    IsSettledBy (entry.2 ≠ .null) (entry.1.IsShort ∧ entry.2.IsShowable)
      (variableOf owner field entry) := by
  obtain ⟨key, value⟩ := entry
  unfold variableOf
  split
  · rename_i heq
    cases heq
    cases hname : key.text? with
    | some name => exact .refused (by simp) (by simp)
    | none => exact .unshown .longNumber fun hshow => Scalar.not_isShort_of_text? hname hshow.1
  · rename_i hnull heq
    cases heq
    cases hcontent : variableText value with
    | error fault =>
        exact .unshown fault fun hshow => not_isShowable_of_variableText hcontent hshow.2
    | ok content =>
        cases hname : key.text? with
        | some name => exact .accepted hnull
        | none => exact .unshown .longNumber fun hshow => Scalar.not_isShort_of_text? hname hshow.1

theorem settled_variables? [Machine] :
    IsSettledBy (entries.Allows (IsMapping HasNoNull) field) entries.IsShowable
      (variables? owner field entries) := by
  unfold variables?
  split
  · rename_i hentry
    exact .accepted (allows_of_none hentry)
  · rename_i hentry
    exact .accepted (allows_of_null hentry)
  · rename_i d hnull hentry
    split
    · rename_i items hitems
      have hread : IsSettledBy (∀ item ∈ items, item.2 ≠ .null) entries.IsShowable
          (items.mapM (variableOf owner field)) := by
        refine .mapM fun item hmem => (settled_variableOf item).weaken fun hshow => ?_
        exact isShowable_of_entries? (isShowable_of_lookup? hshow hentry) hitems item hmem
      refine (hread.map _).of_iff ?_
      rw [allows_iff_of_some hentry hnull, isMapping_iff hitems, HasNoNull]
    · rename_i hitems
      refine .refused (by simp) ?_
      rw [allows_iff_of_some hentry hnull]
      exact not_isMapping hitems

end Field

/-! ## Records -/

/-- A record is settled by the schema of its entries if reading these is. -/
theorem settled_record [Machine]
    {α : Type} {owner : Owner} {schema : DocumentEntries → Prop} {d : Document}
    {read : DocumentEntries → Except Refusal α}
    (hread : ∀ entries, IsSettledBy (schema entries) entries.IsShowable (read entries)) :
    IsSettledBy (d.IsMapping schema) d.IsShowable (entriesOf owner d >>= read) := by
  unfold entriesOf
  cases hentries : d.entries? with
  | none => exact .refused (by simp) (not_isMapping hentries)
  | some entries =>
      have hsettled := (hread entries).weaken fun hshow => isShowable_of_entries? hshow hentries
      exact hsettled.of_iff (isMapping_iff hentries).symm

end ActorManifest
