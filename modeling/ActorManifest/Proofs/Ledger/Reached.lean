import ActorManifest.Proofs.Ledger.History
import Mathlib.Data.List.Monad

/-!
# What a ledger holds after a history

A ledger starts as a list of conditions or as the conditions that a document lists, and then
changes by writes and removals.  The conditions that it starts from count as its first
writes.  Two results say what it holds then.  The condition about a phase is the last write
to it, with the time of the first write of the block that ends its history.  The phases are
listed in the order in which they came in, each at its earliest write since it was last
removed.
-/

namespace ActorManifest
namespace Ledger

/-! ## Reached ledgers -/

/-- A ledger with the history that made it. -/
inductive Reached [Machine] : Ledger → List Operation → Prop where
  | ofList (conditions : List Condition) :
      Reached (.ofList conditions) (conditions.map .set)
  | ofDocument {d : Document} {l : Ledger} {documents : List Document}
      {conditions : List Condition}
      (hread : Ledger.ofDocument d = .ok l)
      (hdocuments : conditionDocuments d = .ok documents)
      (hconditions : documents.mapM Condition.ofDocument = .ok conditions) :
      Reached l (conditions.map .set)
  | apply {l : Ledger} {history : List Operation} (operation : Operation)
      (hreached : Reached l history) :
      Reached (l.apply operation) (history ++ [operation])

/-- The conditions of a list of documents are read to the end if each of them is read. -/
theorem readConditions_eq_iff [Machine]
    {documents : List Document} {conditions : List Condition} :
    readConditions documents = (conditions, none) ↔
      documents.mapM Condition.ofDocument = .ok conditions := by
  induction documents generalizing conditions with
  | nil =>
      simp [readConditions, pure, Except.pure]
  | cons d rest ih =>
      rw [readConditions, List.mapM_cons]
      cases hd : Condition.ofDocument d with
      | error refusal => simp [bind, Except.bind]
      | ok c =>
          rcases hrest : readConditions rest with ⟨more, _ | refusal⟩
          · simp [ih.mp hrest, bind, Except.bind, pure, Except.pure]
          · cases hmore : rest.mapM Condition.ofDocument with
            | error other => simp [bind, Except.bind]
            | ok read =>
                rw [ih.mpr hmore] at hrest
                cases hrest

/-- The ledger of a document is that of the conditions that it lists. -/
theorem ofDocument_eq_ok_iff [Machine] {d : Document} {l : Ledger} :
    Ledger.ofDocument d = .ok l ↔
      ∃ documents conditions, conditionDocuments d = .ok documents ∧
        documents.mapM Condition.ofDocument = .ok conditions ∧
        l = Ledger.ofList conditions := by
  simp only [Ledger.ofDocument, Ledger.read, ← readConditions_eq_iff]
  cases hdocuments : conditionDocuments d with
  | error refusal => simp
  | ok documents =>
      rcases hread : readConditions documents with ⟨conditions, _ | refusal⟩
      · simp [hread, eq_comm]
      · simp [hread]

/-- What holds of the empty ledger and is kept by every operation holds of every ledger
that is reached. -/
theorem Reached.induction [Machine]
    {P : Ledger → List Operation → Prop} (hempty : P empty [])
    (happly : ∀ l history operation, P l history →
      P (l.apply operation) (history ++ [operation]))
    {l : Ledger} {history : List Operation} (hreached : Reached l history) :
    P l history := by
  -- The conditions at the start are writes, too, so a start is a run from the empty ledger.
  have hlist : ∀ conditions : List Condition,
      P (.ofList conditions) (conditions.map .set) := by
    intro conditions
    induction conditions using List.reverseRecOn with
    | nil => exact hempty
    | append_singleton conditions c ih =>
        simpa [Ledger.ofList, setAll, Ledger.apply] using happly _ _ (.set c) ih
  induction hreached with
  | ofList conditions => exact hlist conditions
  | ofDocument hread hdocuments hconditions =>
      obtain ⟨documents, conditions, hdocuments', hconditions', rfl⟩ :=
        ofDocument_eq_ok_iff.mp hread
      rw [hdocuments'] at hdocuments
      cases hdocuments
      rw [hconditions'] at hconditions
      cases hconditions
      exact hlist _
  | apply operation _ ih => exact happly _ _ operation ih

/-! ## The condition about a phase -/

/-- What a ledger should answer about a phase after a history. -/
def Accounts (phase : Phase) (history : List Operation) : Option Condition → Prop
  | none => IsCleared phase history
  | some c => ∃ first last, OpensBlock phase history first ∧
      IsLastWrite phase history last ∧ first.asserted = last.asserted ∧
      c = { last with since := first.since }

theorem accounts_append_of_phase_ne
    {phase : Phase} {history : List Operation} {operation : Operation}
    (hphase : operation.phase ≠ phase) {answer : Option Condition}
    (haccounts : Accounts phase history answer) :
    Accounts phase (history ++ [operation]) answer := by
  cases answer with
  | none => exact isCleared_append.mpr (Or.inr ⟨hphase, haccounts⟩)
  | some c =>
      obtain ⟨first, last, hopens, hlast, hsame, rfl⟩ := haccounts
      refine ⟨first, last, ?_, ?_, hsame, rfl⟩
      · exact opensBlock_append_of_opensBlock hopens fun heq => absurd heq hphase
      · exact isLastWrite_append.mpr (Or.inr ⟨hphase, hlast⟩)

/-- A write goes on with the block of its status or opens a new one. -/
theorem accounts_append_set
    {l : Ledger} {history : List Operation} {c : Condition}
    (haccounts : Accounts c.phase history (l.get? c.phase)) :
    Accounts c.phase (history ++ [.set c]) (some (l.stored c)) := by
  have hlast : IsLastWrite c.phase (history ++ [.set c]) c :=
    isLastWrite_append.mpr (Or.inl ⟨rfl, rfl⟩)
  cases hget : l.get? c.phase with
  | none =>
      rw [hget] at haccounts
      have hopens := opensBlock_append_set rfl fun d hd =>
        absurd haccounts (not_isCleared_of_isLastWrite hd)
      exact ⟨c, c, hopens, hlast, rfl, stored_of_get?_eq_none hget⟩
  | some old =>
      rw [hget] at haccounts
      obtain ⟨first, last, hopens, hbefore, hsame, rfl⟩ := haccounts
      -- The block goes on if the status is that of the last write, as is that of the first.
      by_cases hstatus : last.asserted = c.asserted
      · have hgoes : OpensBlock c.phase (history ++ [.set c]) first :=
          opensBlock_append_of_opensBlock hopens
            fun _ => ⟨c, rfl, hstatus.symm.trans hsame.symm⟩
        have hstored := stored_of_asserted_eq hget hstatus
        exact ⟨first, c, hgoes, hlast, hsame.trans hstatus, hstored⟩
      · have hnew := opensBlock_append_set rfl fun d hd =>
          isLastWrite_unique hbefore hd ▸ hstatus
        exact ⟨c, c, hnew, hlast, rfl, stored_of_asserted_ne hget hstatus⟩

theorem accounts_apply
    {l : Ledger} {history : List Operation} {phase : Phase} (operation : Operation)
    (haccounts : Accounts phase history (l.get? phase)) :
    Accounts phase (history ++ [operation]) ((l.apply operation).get? phase) := by
  by_cases hphase : operation.phase = phase
  · subst hphase
    cases operation with
    | set c =>
        have hget : (l.set c).get? c.phase = some (l.stored c) := by simp [get?_set]
        exact hget ▸ accounts_append_set haccounts
    | erase erased =>
        have hget : (l.erase erased).get? erased = none := by simp [get?_erase]
        exact hget ▸ isCleared_append.mpr (Or.inl rfl)
  · have hget : (l.apply operation).get? phase = l.get? phase := by
      cases operation with
      | set c => exact (get?_set l c phase).trans (if_neg hphase)
      | erase erased => exact (get?_erase l erased phase).trans (if_neg hphase)
    rw [hget]
    exact accounts_append_of_phase_ne hphase haccounts

theorem accounts_of_reached [Machine]
    {l : Ledger} {history : List Operation} (hreached : Reached l history) (phase : Phase) :
    Accounts phase history (l.get? phase) := by
  refine hreached.induction (P := fun l history => Accounts phase history (l.get? phase)) ?_ ?_
  · exact isCleared_nil phase
  · intro l history operation haccounts
    exact accounts_apply operation haccounts

/-- The condition about a phase is the last write to it, with the time of the first write of the
block of that status.  There is none if and only if the phase was never written or was
removed after its last write.  A write answers with what is stored then. -/
theorem get?_of_reached [Machine]
    {l : Ledger} {history : List Operation} (hreached : Reached l history) :
    (∀ phase, l.get? phase = none ↔ IsCleared phase history) ∧
      (∀ phase c, l.get? phase = some c →
        ∃ first last, OpensBlock phase history first ∧ IsLastWrite phase history last ∧
          c = { last with since := first.since }) ∧
      ∀ c, (l.set c).get? c.phase = some (l.stored c) := by
  refine ⟨?_, ?_, ?_⟩
  · intro phase
    have haccounts := accounts_of_reached hreached phase
    cases hget : l.get? phase with
    | none =>
        rw [hget] at haccounts
        exact iff_of_true rfl haccounts
    | some c =>
        rw [hget] at haccounts
        obtain ⟨first, last, -, hlast, -⟩ := haccounts
        simpa using not_isCleared_of_isLastWrite hlast
  · intro phase c hget
    have haccounts := accounts_of_reached hreached phase
    rw [hget] at haccounts
    obtain ⟨first, last, hopens, hlast, -, hc⟩ := haccounts
    exact ⟨first, last, hopens, hlast, hc⟩
  · intro c
    rw [get?_set, if_pos rfl]

/-- Of two retractions after an assertion the second is stored with the time of the first. -/
theorem get?_of_reached_retracted_twice :
    let up := Condition.write .running true "Up" [] ⟨⟨2024, 1, 1, by decide⟩, .midnight, none⟩
    let down :=
      Condition.write .running false "Crash" [] ⟨⟨2024, 1, 2, by decide⟩, .midnight, none⟩
    let still :=
      Condition.write .running false "Gone" [] ⟨⟨2024, 1, 3, by decide⟩, .midnight, none⟩
    let history := [Operation.set up, .set down, .set still]
    Reached (((ofList [up]).set down).set still) history ∧
      ∃ first last, OpensBlock .running history first ∧ IsLastWrite .running history last ∧
        { still with since := down.since } = { last with since := first.since } := by
  intro up down still history
  have hreached : Reached (((ofList [up]).set down).set still) history :=
    .apply (.set still) (.apply (.set down) (.ofList [up]))
  exact ⟨hreached, (get?_of_reached hreached).2.1 .running _ rfl⟩

/-! ## The order of the phases -/

/-- One phase came in before another. -/
def EntersBefore (history : List Operation) (first second : Phase) : Prop :=
  ∃ i j, EntersAt first history i ∧ EntersAt second history j ∧ i < j

/-- The listed phases are ordered by the places at which they came in. -/
def IsOrdered (history : List Operation) (phases : List Phase) : Prop :=
  (∀ phase ∈ phases, ∃ place, EntersAt phase history place) ∧
    phases.Pairwise (EntersBefore history)

theorem entersBefore_append
    {history : List Operation} {operation : Operation} {first second : Phase}
    (hbefore : EntersBefore history first second)
    (hfirst : operation ≠ .erase first) (hsecond : operation ≠ .erase second) :
    EntersBefore (history ++ [operation]) first second := by
  obtain ⟨i, j, hi, hj, hlt⟩ := hbefore
  exact ⟨i, j, entersAt_append_of_entersAt hi hfirst,
    entersAt_append_of_entersAt hj hsecond, hlt⟩

/-- An operation that removes no listed phase leaves the order as it is. -/
theorem isOrdered_append
    {history : List Operation} {operation : Operation} {phases : List Phase}
    (hordered : IsOrdered history phases)
    (hkept : ∀ phase ∈ phases, operation ≠ .erase phase) :
    IsOrdered (history ++ [operation]) phases := by
  refine ⟨?_, ?_⟩
  · intro phase hphase
    obtain ⟨place, hplace⟩ := hordered.1 phase hphase
    exact ⟨place, entersAt_append_of_entersAt hplace (hkept phase hphase)⟩
  · refine hordered.2.imp_of_mem ?_
    intro first second hfirst hsecond hbefore
    exact entersBefore_append hbefore (hkept first hfirst) (hkept second hsecond)

/-- A phase that comes in now comes after all that are listed. -/
theorem isOrdered_append_set
    {history : List Operation} {c : Condition} {phases : List Phase}
    (hordered : IsOrdered history phases) (hcleared : IsCleared c.phase history) :
    IsOrdered (history ++ [.set c]) (phases ++ [c.phase]) := by
  have hlast := entersAt_append_set hcleared
  have hold : IsOrdered (history ++ [.set c]) phases := isOrdered_append hordered (by simp)
  refine ⟨?_, ?_⟩
  · intro phase hphase
    rw [List.mem_append, List.mem_singleton] at hphase
    rcases hphase with hphase | rfl
    · exact hold.1 phase hphase
    · exact ⟨history.length, hlast⟩
  · rw [List.pairwise_append]
    refine ⟨hold.2, List.pairwise_singleton _ _, ?_⟩
    intro phase hphase other hother
    rw [List.mem_singleton] at hother
    subst hother
    obtain ⟨place, hplace⟩ := hordered.1 phase hphase
    exact ⟨place, history.length, entersAt_append_of_entersAt hplace (by simp), hlast,
      lt_length_of_entersAt hplace⟩

theorem isOrdered_apply
    {l : Ledger} {history : List Operation} (operation : Operation)
    (haccounts : ∀ phase, Accounts phase history (l.get? phase))
    (hordered : IsOrdered history l.phases) :
    IsOrdered (history ++ [operation]) (l.apply operation).phases := by
  cases operation with
  | set c =>
      rw [Ledger.apply, phases_set]
      by_cases hmem : c.phase ∈ l.phases
      · rw [if_pos hmem]
        exact isOrdered_append hordered (by simp)
      · rw [if_neg hmem]
        have hcleared := haccounts c.phase
        rw [(l.get?_eq_none_iff c.phase).mpr hmem] at hcleared
        exact isOrdered_append_set hordered hcleared
  | erase erased =>
      rw [Ledger.apply, phases_erase]
      have hkept : IsOrdered history (l.phases.filter fun phase => phase != erased) :=
        ⟨fun phase hphase => hordered.1 phase (List.mem_filter.mp hphase).1,
          hordered.2.filter _⟩
      refine isOrdered_append hkept ?_
      intro phase hphase heq
      cases heq
      simp at hphase

theorem isOrdered_of_reached [Machine]
    {l : Ledger} {history : List Operation} (hreached : Reached l history) :
    IsOrdered history l.phases := by
  have hboth := hreached.induction
    (P := fun l history =>
      (∀ phase, Accounts phase history (l.get? phase)) ∧ IsOrdered history l.phases)
    ⟨fun phase => isCleared_nil phase, by simp [IsOrdered, phases, empty]⟩
    fun l history operation hboth =>
      ⟨fun phase => accounts_apply operation (hboth.1 phase),
        isOrdered_apply operation hboth.1 hboth.2⟩
  exact hboth.2

theorem same_refl (l : Ledger) : l.same l = true := by
  have hlist : ∀ conditions : List Condition, sameConditions conditions conditions = true := by
    intro conditions
    induction conditions with
    | nil => rfl
    | cons c rest ih => simp [sameConditions, Condition.same, ih]
  exact hlist l.conditions

/-- A ledger lists at most one condition for each phase, and answers with the listed one.
The phases stand in the order in which they came in: a write to a listed phase moves
nothing, and any other write adds its phase at the end.  The ledger that is made of the
listed conditions is the same ledger. -/
theorem listing_of_reached [Machine]
    {l : Ledger} {history : List Operation} (hreached : Reached l history) :
    (∀ phase c, l.get? phase = some c ↔ c ∈ l.conditions ∧ c.phase = phase) ∧
      (∀ phase, l.get? phase = none ↔ ∀ c ∈ l.conditions, c.phase ≠ phase) ∧
      (l.conditions.map Condition.phase).Nodup ∧
      l.conditions.length =
        (Phase.ranking.filter fun phase => (l.get? phase).isSome).length ∧
      (∀ c ∈ l.conditions, ∃ place, EntersAt c.phase history place) ∧
      (l.conditions.Pairwise fun c d => EntersBefore history c.phase d.phase) ∧
      (∀ c, (l.set c).conditions.map Condition.phase =
        if c.phase ∈ l.conditions.map Condition.phase then l.conditions.map Condition.phase
        else l.conditions.map Condition.phase ++ [c.phase]) ∧
      ofList l.conditions = l ∧ (ofList l.conditions).same l = true := by
  have hordered := isOrdered_of_reached hreached
  refine ⟨l.get?_eq_some_iff, ?_, l.onePerPhase, l.length_conditions, ?_, ?_, l.phases_set,
    l.ofList_conditions, ?_⟩
  · intro phase
    rw [l.get?_eq_none_iff phase, phases]
    simp
  · intro c hc
    exact hordered.1 c.phase (List.mem_map_of_mem hc)
  · exact List.pairwise_map.mp hordered.2
  · rw [l.ofList_conditions]
    exact l.same_refl

/-- A phase that is written again after its removal comes behind one that stayed. -/
theorem listing_of_reached_written_again :
    let failed :=
      Condition.write .failed true "Crash" [] ⟨⟨2024, 1, 1, by decide⟩, .midnight, none⟩
    let pending := Condition.created ⟨⟨2024, 1, 2, by decide⟩, .midnight, none⟩
    let history :=
      [Operation.set failed, .set pending, .set failed, .erase .failed, .set failed]
    let l := (((ofList [failed, pending]).set failed).erase .failed).set failed
    Reached l history ∧ l.conditions.map Condition.phase = [.pending, .failed] ∧
      l.conditions.Pairwise fun c d => EntersBefore history c.phase d.phase := by
  intro failed pending history l
  have hreached : Reached l history :=
    .apply (.set failed) (.apply (.erase .failed) (.apply (.set failed)
      (.ofList [failed, pending])))
  exact ⟨hreached, rfl, (listing_of_reached hreached).2.2.2.2.2.1⟩

end Ledger
end ActorManifest
