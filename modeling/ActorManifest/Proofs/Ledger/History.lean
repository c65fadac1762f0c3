import ActorManifest.Proofs.Ledger.Basic
import Mathlib.Data.List.Induction

/-!
# Histories of a ledger

A history is a list of writes and removals.  This file says, in terms of the history alone,
what the last write to a phase is, where the block of writes of one status that it belongs
to begins, and when a phase came into the list.

All of these cut a history in two at a write.  What one operation more does to each of them
is a statement of its own, so that an induction over a history never looks at a cut.
-/

namespace ActorManifest
namespace Ledger

/-! ## Notions about histories -/

/-- The phase that an operation is about. -/
def Operation.phase : Operation → Phase
  | .set c => c.phase
  | .erase phase => phase

/-- Every write to the phase is followed by its removal. -/
def IsCleared (phase : Phase) (history : List Operation) : Prop :=
  ∀ before c after, history = before ++ .set c :: after →
    c.phase = phase → .erase phase ∈ after

/-- The last operation about the phase writes `c`. -/
def IsLastWrite (phase : Phase) (history : List Operation) (c : Condition) : Prop :=
  c.phase = phase ∧ ∃ before after, history = before ++ .set c :: after ∧
    ∀ operation ∈ after, operation.phase ≠ phase

/-- The write of `c` opens the block of writes of one status that ends the history of the
phase: every later operation about the phase writes that status, and the operation about
the phase before it, if there is one, does not. -/
def OpensBlock (phase : Phase) (history : List Operation) (c : Condition) : Prop :=
  c.phase = phase ∧ ∃ before after, history = before ++ .set c :: after ∧
    (∀ operation ∈ after, operation.phase = phase →
      ∃ d, operation = .set d ∧ d.asserted = c.asserted) ∧
    ∀ d, IsLastWrite phase before d → d.asserted ≠ c.asserted

/-- The operation at a place of the history is the earliest write to the phase since its
last removal. -/
def EntersAt (phase : Phase) (history : List Operation) (place : Nat) : Prop :=
  ∃ before c after, history = before ++ .set c :: after ∧ before.length = place ∧
    c.phase = phase ∧ IsCleared phase before ∧ .erase phase ∉ after

/-! ## One operation more -/

/-- A write in a longer history is the new operation or a write of the shorter one. -/
theorem append_singleton_eq_iff
    {history before after : List Operation} {operation written : Operation} :
    history ++ [operation] = before ++ written :: after ↔
      (after = [] ∧ history = before ∧ operation = written) ∨
        ∃ later, after = later ++ [operation] ∧ history = before ++ written :: later := by
  constructor
  · intro heq
    rcases List.eq_nil_or_concat after with rfl | ⟨later, last, rfl⟩
    · obtain ⟨rfl, hlast⟩ := List.append_inj' heq rfl
      exact Or.inl ⟨rfl, rfl, by simpa using hlast⟩
    · rw [List.concat_eq_append, ← List.cons_append, ← List.append_assoc] at heq
      obtain ⟨hhistory, hlast⟩ := List.append_inj' heq rfl
      refine Or.inr ⟨later, ?_, hhistory⟩
      rw [List.concat_eq_append, hlast]
  · rintro (⟨rfl, rfl, rfl⟩ | ⟨later, rfl, rfl⟩)
    · rfl
    · simp

theorem isCleared_nil (phase : Phase) : IsCleared phase [] := by
  intro before c after heq
  simp at heq

theorem isCleared_append
    {phase : Phase} {history : List Operation} {operation : Operation} :
    IsCleared phase (history ++ [operation]) ↔
      operation = .erase phase ∨ operation.phase ≠ phase ∧ IsCleared phase history := by
  constructor
  · intro hcleared
    by_cases herase : operation = .erase phase
    · exact Or.inl herase
    refine Or.inr ⟨?_, ?_⟩
    · intro hphase
      cases operation with
      | set c => simpa using hcleared history c [] rfl hphase
      | erase erased => exact herase (congrArg Operation.erase hphase)
    · rintro before c after rfl hc
      have hmem := hcleared before c (after ++ [operation]) (by simp) hc
      rw [List.mem_append, List.mem_singleton] at hmem
      exact hmem.resolve_right fun heq => herase heq.symm
  · rintro (rfl | ⟨hphase, hcleared⟩) before c after heq hc
    · rcases append_singleton_eq_iff.mp heq with ⟨-, -, hset⟩ | ⟨later, rfl, -⟩
      · cases hset
      · simp
    · rcases append_singleton_eq_iff.mp heq with ⟨-, -, rfl⟩ | ⟨later, rfl, hhistory⟩
      · exact absurd hc hphase
      · exact List.mem_append_left _ (hcleared before c later hhistory hc)

theorem not_isLastWrite_nil {phase : Phase} {c : Condition} : ¬IsLastWrite phase [] c := by
  rintro ⟨-, before, after, heq, -⟩
  simp at heq

theorem isLastWrite_append
    {phase : Phase} {history : List Operation} {operation : Operation} {c : Condition} :
    IsLastWrite phase (history ++ [operation]) c ↔
      (operation = .set c ∧ c.phase = phase) ∨
        operation.phase ≠ phase ∧ IsLastWrite phase history c := by
  constructor
  · rintro ⟨hc, before, after, heq, hafter⟩
    rcases append_singleton_eq_iff.mp heq with ⟨-, -, rfl⟩ | ⟨later, rfl, hhistory⟩
    · exact Or.inl ⟨rfl, hc⟩
    · refine Or.inr ⟨hafter operation (by simp), hc, before, later, hhistory, ?_⟩
      intro other hother
      exact hafter other (List.mem_append_left _ hother)
  · rintro (⟨rfl, hc⟩ | ⟨hphase, hc, before, after, rfl, hafter⟩)
    · exact ⟨hc, history, [], rfl, by simp⟩
    · refine ⟨hc, before, after ++ [operation], by simp, ?_⟩
      intro other hother
      rw [List.mem_append, List.mem_singleton] at hother
      rcases hother with hother | rfl
      · exact hafter other hother
      · exact hphase

/-- A phase with a last write is not cleared. -/
theorem not_isCleared_of_isLastWrite
    {phase : Phase} {history : List Operation} {c : Condition}
    (hlast : IsLastWrite phase history c) : ¬IsCleared phase history := by
  obtain ⟨hc, before, after, heq, hafter⟩ := hlast
  intro hcleared
  exact hafter _ (hcleared before c after heq hc) rfl

theorem isLastWrite_unique
    {phase : Phase} {history : List Operation} {c d : Condition}
    (hc : IsLastWrite phase history c) (hd : IsLastWrite phase history d) : c = d := by
  induction history using List.reverseRecOn with
  | nil => exact absurd hc not_isLastWrite_nil
  | append_singleton history operation ih =>
      rw [isLastWrite_append] at hc hd
      rcases hc with ⟨rfl, hc⟩ | ⟨hphase, hc⟩
      · rcases hd with ⟨hset, -⟩ | ⟨hphase, -⟩
        · cases hset
          rfl
        · exact absurd hc hphase
      · rcases hd with ⟨rfl, hd⟩ | ⟨-, hd⟩
        · exact absurd hd hphase
        · exact ih hc hd

/-- A block goes on if the new operation is about another phase or writes its status. -/
theorem opensBlock_append_of_opensBlock
    {phase : Phase} {history : List Operation} {operation : Operation} {c : Condition}
    (hopens : OpensBlock phase history c)
    (hnew : operation.phase = phase →
      ∃ d, operation = .set d ∧ d.asserted = c.asserted) :
    OpensBlock phase (history ++ [operation]) c := by
  obtain ⟨hc, before, after, rfl, hafter, hbefore⟩ := hopens
  refine ⟨hc, before, after ++ [operation], by simp, ?_, hbefore⟩
  intro other hother
  rw [List.mem_append, List.mem_singleton] at hother
  rcases hother with hother | rfl
  · exact hafter other hother
  · exact hnew

/-- A write opens a block if the last write before it had the other status. -/
theorem opensBlock_append_set
    {phase : Phase} {history : List Operation} {c : Condition} (hc : c.phase = phase)
    (hbefore : ∀ d, IsLastWrite phase history d → d.asserted ≠ c.asserted) :
    OpensBlock phase (history ++ [.set c]) c :=
  ⟨hc, history, [], rfl, by simp, hbefore⟩

theorem entersAt_append_of_entersAt
    {phase : Phase} {history : List Operation} {operation : Operation} {place : Nat}
    (henters : EntersAt phase history place) (herase : operation ≠ .erase phase) :
    EntersAt phase (history ++ [operation]) place := by
  obtain ⟨before, c, after, rfl, hplace, hc, hcleared, hafter⟩ := henters
  refine ⟨before, c, after ++ [operation], by simp, hplace, hc, hcleared, ?_⟩
  rw [List.mem_append, List.mem_singleton, not_or]
  exact ⟨hafter, Ne.symm herase⟩

theorem entersAt_append_set
    {history : List Operation} {c : Condition} (hcleared : IsCleared c.phase history) :
    EntersAt c.phase (history ++ [.set c]) history.length :=
  ⟨history, c, [], rfl, rfl, rfl, hcleared, by simp⟩

theorem lt_length_of_entersAt
    {phase : Phase} {history : List Operation} {place : Nat}
    (henters : EntersAt phase history place) : place < history.length := by
  obtain ⟨before, c, after, rfl, rfl, -⟩ := henters
  simp

end Ledger
end ActorManifest
