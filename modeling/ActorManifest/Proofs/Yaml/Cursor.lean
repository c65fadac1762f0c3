import ActorManifest.Yaml.Cursor
import ActorManifest.Yaml.Writer
import Mathlib.Data.List.TakeDrop

/-!
# Moving a cursor

A cursor that skips code points leaves them behind.  Over a piece of one line it moves by as many
columns as there are code points, and over a line break it moves to the start of the next line.
-/

namespace ActorManifest
namespace Yaml
namespace Cursor

variable {c : Cursor} {p : CodePoint} {w r : Text}

theorem rest_next (c : Cursor) : c.next.rest = c.rest.tail := by
  unfold next
  split
  · rename_i hrest
    rw [hrest]
    rfl
  · rename_i hrest
    rw [hrest]
    split
    · rfl
    · split <;> rfl

theorem rest_skip (n : Nat) (c : Cursor) : (c.skip n).rest = c.rest.drop n := by
  induction n generalizing c with
  | zero => rfl
  | succ n ih => rw [skip, ih, rest_next, List.drop_tail]

theorem rest_skip_of_eq (hrest : c.rest = w ++ r) : (c.skip w.length).rest = r := by
  rw [rest_skip, hrest, List.drop_left]

theorem skip_skip (m n : Nat) (c : Cursor) : (c.skip m).skip n = c.skip (m + n) := by
  induction m generalizing c with
  | zero => rw [Nat.zero_add, skip]
  | succ m ih => rw [skip, ih, Nat.succ_add, skip]

theorem next_skip (n : Nat) (c : Cursor) : c.next.skip n = c.skip (n + 1) := rfl

theorem line_le_next (c : Cursor) : c.line ≤ c.next.line := by
  unfold next
  split
  · exact Nat.le_refl _
  · split
    · exact Nat.le_succ _
    · split <;> exact Nat.le_refl _

theorem line_le_skip (n : Nat) (c : Cursor) : c.line ≤ (c.skip n).line := by
  induction n generalizing c with
  | zero => exact Nat.le_refl _
  | succ n ih => exact Nat.le_trans (line_le_next c) (ih c.next)

/-! ## Within a line -/

/-- A text without line breaks all of whose code points take a column. -/
def IsLine (w : Text) : Prop :=
  ∀ p ∈ w, isBreak p = false ∧ p ≠ .char '\uFEFF'

theorem isLine_spaces (n : Nat) : IsLine (Writer.spaces n) := by
  intro p hp
  rw [List.eq_of_mem_replicate hp]
  decide

theorem next_of_line
    (hrest : c.rest = p :: r) (hp : isBreak p = false ∧ p ≠ .char '\uFEFF') :
    c.next = ⟨r, c.index + 1, c.line, c.column + 1⟩ := by
  simp only [next, hrest, hp.1, Bool.false_eq_true, if_false, if_neg hp.2]

theorem skip_of_line
    (hrest : c.rest = w ++ r) (hw : IsLine w) :
    c.skip w.length = ⟨r, c.index + w.length, c.line, c.column + w.length⟩ := by
  induction w generalizing c with
  | nil =>
      rw [List.nil_append] at hrest
      rw [← hrest]
      rfl
  | cons p w ih =>
      have hnext := next_of_line hrest (hw p List.mem_cons_self)
      have hrest' : c.next.rest = w ++ r := by
        rw [hnext]
        rfl
      have hskip := ih hrest' fun q hq => hw q (List.mem_cons_of_mem p hq)
      rw [List.length_cons, skip, hskip, hnext]
      simp only [Cursor.mk.injEq, true_and]
      omega

theorem next_of_feed (hrest : c.rest = .char '\n' :: r) :
    c.next = ⟨r, c.index + 1, c.line + 1, 0⟩ := by
  simp only [next, hrest]
  rfl

/-- The start of a new line is skipped up to its column. -/
theorem skip_newLine
    {column : Nat} (hrest : c.rest = Writer.newLine column ++ r) :
    c.skip (column + 1) = ⟨r, c.index + 1 + column, c.line + 1, column⟩ := by
  have hnext : c.next = ⟨Writer.spaces column ++ r, c.index + 1, c.line + 1, 0⟩ :=
    next_of_feed hrest
  have hlength : (Writer.spaces column).length = column := List.length_replicate
  have hskip := skip_of_line (c := c.next) (by rw [hnext]) (isLine_spaces column)
  rw [skip]
  rw [hlength, hnext] at hskip
  rw [hnext, hskip, Nat.zero_add]

/-! ## Spans -/

theorem span_of_append
    {q : CodePoint → Bool} (hrest : c.rest = w ++ r) (hw : ∀ p ∈ w, q p = true)
    (hr : ∀ p ∈ r.head?, q p = false) : c.span q = (w, c.skip w.length) := by
  have htaken : c.rest.takeWhile q = w := by
    rw [hrest, List.takeWhile_append_of_pos hw]
    cases r with
    | nil => simp
    | cons p r => simp [hr p rfl]
  rw [span, htaken]

theorem skipSpaces_of_append
    {n : Nat} (hrest : c.rest = Writer.spaces n ++ r) (hr : r.head? ≠ some (.char ' ')) :
    c.skipSpaces = c.skip n := by
  have hw : ∀ p ∈ Writer.spaces n, (p == .char ' ') = true := by
    intro p hp
    rw [List.eq_of_mem_replicate hp]
    rfl
  have hr' : ∀ p ∈ r.head?, (p == .char ' ') = false := by
    intro p hp
    refine beq_eq_false_iff_ne.mpr ?_
    rintro rfl
    exact hr hp
  rw [skipSpaces, span_of_append hrest hw hr', Writer.spaces, List.length_replicate]

end Cursor
end Yaml
end ActorManifest
