import ActorManifest.Command.Report
import ActorManifest.Proofs.Json.Octets

/-!
# What is printed

A line is printed without the sequences for a terminal.  These hold no surrogates, so the line can
be printed if and only if it holds none, and a command that prints lines succeeds if and only if
each of them can be printed.  A text of visible ASCII signs is printed as it stands.
-/

namespace ActorManifest

namespace Command

open Text

variable {t : Text} {files : FileTree}

/-! ## Lines without the sequences for a terminal -/

theorem hasSurrogate_takeWhile_isParameter (t : Text) :
    hasSurrogate (t.takeWhile isParameter) = false := by
  refine List.any_eq_false.mpr fun c hc => ?_
  have hparameter := List.all_eq_true.mp List.all_takeWhile c hc
  cases c with
  | char c => exact Bool.false_ne_true
  | surrogate offset => cases hparameter

/-- A sequence for a terminal holds no surrogate. -/
theorem hasSurrogate_take_of_sequenceLength? {length : Nat}
    (hlength : sequenceLength? t = some length) :
    0 < length ∧ hasSurrogate (t.take length) = false := by
  unfold sequenceLength? at hlength
  split at hlength
  · rename_i rest
    have hparameters := hasSurrogate_takeWhile_isParameter rest
    have hrest := rest.takeWhile_append_dropWhile (p := isParameter)
    generalize rest.takeWhile isParameter = parameters at hlength hparameters hrest
    split at hlength
    · rename_i c more hletter
      split at hlength
      · obtain rfl := Option.some.inj hlength
        rw [hletter] at hrest
        rw [← hrest, List.take_succ_cons, List.take_succ_cons, List.take_length_add_append,
          List.take_succ_cons, List.take_zero, hasSurrogate_cons_char, hasSurrogate_cons_char,
          hasSurrogate_append, hparameters]
        exact ⟨Nat.succ_pos _, rfl⟩
      · cases hlength
    · cases hlength
  · cases hlength

theorem hasSurrogate_plainFrom {skip : Nat} (hskip : hasSurrogate (t.take skip) = false) :
    (plainFrom skip t).hasSurrogate = t.hasSurrogate := by
  induction t generalizing skip with
  | nil => cases skip <;> rfl
  | cons c rest ih =>
      cases skip with
      | succ skip =>
          rw [List.take_succ_cons, hasSurrogate_cons, Bool.or_eq_false_iff] at hskip
          rw [plainFrom, ih hskip.2, hasSurrogate_cons, hskip.1, Bool.false_or]
      | zero =>
          rw [plainFrom]
          split
          · rename_i length hlength
            obtain ⟨hpositive, htake⟩ := hasSurrogate_take_of_sequenceLength? hlength
            obtain ⟨more, rfl⟩ := Nat.exists_eq_add_one_of_ne_zero (Nat.ne_of_gt hpositive)
            rw [List.take_succ_cons, hasSurrogate_cons, Bool.or_eq_false_iff] at htake
            rw [Nat.add_sub_cancel, ih htake.2, hasSurrogate_cons, htake.1, Bool.false_or]
          · rw [hasSurrogate_cons, hasSurrogate_cons, ih rfl]

/-- No surrogate is left out, and none is put in. -/
theorem hasSurrogate_plain (t : Text) : (plain t).hasSurrogate = t.hasSurrogate :=
  hasSurrogate_plainFrom rfl

theorem plain_of_isAscii (ht : t.IsAscii) : plain t = t := by
  induction t with
  | nil => rfl
  | cons c rest ih =>
      rw [IsAscii, List.forall_mem_cons] at ht
      have hnone : sequenceLength? (c :: rest) = none := by
        unfold sequenceLength?
        split
        · rename_i hescape
          obtain ⟨rfl, -⟩ := List.cons.inj hescape
          cases ht.1
        · rfl
      rw [plain, plainFrom, hnone]
      exact congrArg (c :: ·) (ih ht.2)

/-! ## Printing lines -/

theorem printed_eq_ok_iff {write : Write} :
    printed t = .ok write ↔
      t.hasSurrogate = false ∧ write = ⟨.output, plain (t ++ Text.ofString "\n")⟩ := by
  have hbreak : (t ++ Text.ofString "\n").hasSurrogate = t.hasSurrogate := by
    rw [hasSurrogate_append]
    exact Bool.or_false _
  unfold printed
  dsimp only
  rw [hasSurrogate_plain, hbreak]
  by_cases ht : t.hasSurrogate = true
  · simp [ht]
  · simp [ht, eq_comm]

/-- The line is a text that can be printed. -/
def IsPrintable (line : Except Breakdown Text) : Prop :=
  ∃ t, line = .ok t ∧ t.hasSurrogate = false

theorem isPrintable_ok_iff : IsPrintable (.ok t) ↔ t.hasSurrogate = false := by
  simp [IsPrintable]

/-- Where a line can be printed it is, and the command goes on with the next one. -/
theorem printing_cons_of_ok (ht : t.hasSurrogate = false) (lines : List (Except Breakdown Text)) :
    printing files (.ok t :: lines) =
      (printing files lines).after [⟨.output, plain (t ++ Text.ofString "\n")⟩] := by
  rw [printing]
  simp only [Except.bind, printed_eq_ok_iff.mpr ⟨ht, rfl⟩]

theorem exitCode_printing_cons_of_not
    {line : Except Breakdown Text} (hline : ¬IsPrintable line)
    (lines : List (Except Breakdown Text)) : (printing files (line :: lines)).exitCode = 1 := by
  rw [printing]
  split
  · rfl
  · rename_i write hwrite
    cases line with
    | error cause => cases hwrite
    | ok t => exact absurd ⟨t, rfl, (printed_eq_ok_iff.mp hwrite).1⟩ hline

theorem files_printing (files : FileTree) (lines : List (Except Breakdown Text)) :
    (printing files lines).files = files := by
  induction lines with
  | nil => rfl
  | cons line lines ih =>
      unfold printing
      split
      · rfl
      · exact ih

@[simp] theorem exitCode_after (earlier : List Write) (r : Report) :
    (r.after earlier).exitCode = r.exitCode := rfl

/-- What is written among the errors is not on the output. -/
theorem textOn_output_after
    {earlier : List Write} (hearlier : ∀ write ∈ earlier, write.stream = .errors) (r : Report) :
    (r.after earlier).textOn .output = r.textOn .output := by
  have hnone : earlier.filter (fun write => write.stream == .output) = [] := by
    rw [List.filter_eq_nil_iff]
    intro write hwrite
    rw [hearlier write hwrite]
    decide
  rw [Report.textOn, Report.textOn, Report.after, List.filter_append, hnone, List.nil_append]

/-- A command that prints lines succeeds if and only if all of them can be printed. -/
theorem exitCode_printing_eq_zero_iff (lines : List (Except Breakdown Text)) :
    (printing files lines).exitCode = 0 ↔ ∀ line ∈ lines, IsPrintable line := by
  induction lines with
  | nil => exact iff_of_true rfl (List.forall_mem_nil _)
  | cons line lines ih =>
      rw [List.forall_mem_cons]
      by_cases hline : IsPrintable line
      · obtain ⟨t, rfl, ht⟩ := id hline
        rw [printing_cons_of_ok ht, and_iff_right hline]
        exact ih
      · rw [exitCode_printing_cons_of_not hline]
        exact iff_of_false Nat.one_ne_zero fun hall => hline hall.1

end Command
end ActorManifest
