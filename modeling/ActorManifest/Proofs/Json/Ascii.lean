import ActorManifest.Proofs.Json.Number
import Mathlib.Tactic.SplitIfs

/-!
# Layouts are ASCII

Whatever a value holds, its lines are written with visible ASCII signs, blanks and line feeds alone:
numerals of both kinds are, and what else a text holds is written as escapes.
-/

namespace ActorManifest

/-- Whether a code point is a visible ASCII sign, a blank or a line feed. -/
def CodePoint.isAsciiSign (c : CodePoint) : Bool :=
  c == .char '\n' || (0x20 ≤ c.toNat && c.toNat ≤ 0x7E)

namespace Text

/-- All code points of the text are visible ASCII signs, blanks or line feeds. -/
def IsAscii (t : Text) : Prop :=
  ∀ c ∈ t, c.isAsciiSign = true

instance (t : Text) : Decidable t.IsAscii :=
  inferInstanceAs (Decidable (∀ c ∈ t, c.isAsciiSign = true))

variable {s t : Text}

theorem isAscii_nil : IsAscii [] :=
  List.forall_mem_nil _

theorem IsAscii.append (hs : s.IsAscii) (ht : t.IsAscii) : IsAscii (s ++ t) :=
  List.forall_mem_append.mpr ⟨hs, ht⟩

theorem isAscii_concat {pieces : List Text} (hpieces : ∀ piece ∈ pieces, IsAscii piece) :
    IsAscii (concat pieces) := by
  intro c hc
  obtain ⟨piece, hpiece, hc⟩ := List.mem_flatten.mp hc
  exact hpieces piece hpiece c hc

theorem isAscii_flatMap
    {α : Type} {list : List α} {f : α → Text} (hf : ∀ a ∈ list, IsAscii (f a)) :
    IsAscii (list.flatMap f) := by
  intro c hc
  obtain ⟨a, ha, hc⟩ := List.mem_flatMap.mp hc
  exact hf a ha c hc

theorem isAscii_replicate {c : CodePoint} (hc : c.isAsciiSign = true) (count : Nat) :
    IsAscii (List.replicate count c) := by
  intro d hd
  rwa [List.eq_of_mem_replicate hd]

theorem IsAscii.hasSurrogate (ht : t.IsAscii) : t.hasSurrogate = false := by
  refine List.any_eq_false.mpr fun c hc => ?_
  cases c with
  | char c => exact Bool.false_ne_true
  | surrogate offset =>
      have hsign := ht _ hc
      have hlow : 0xD800 + offset.val ≤ 0x7E := by
        simp [CodePoint.isAsciiSign, CodePoint.toNat] at hsign
        exact of_decide_eq_true hsign.2
      omega

/-! ## Digits -/

/-- The signs that a number is written with are digits of its base. -/
theorem exists_digit_of_mem_toDigits {base : Nat} (hbase : 1 < base) {n : Nat} {c : Char}
    (hc : c ∈ Nat.toDigits base n) : ∃ d < base, c = Nat.digitChar d := by
  induction n using Nat.strongRecOn with
  | ind n ih =>
      by_cases hn : n < base
      · rw [Nat.toDigits_of_lt_base hn, List.mem_singleton] at hc
        exact ⟨n, hn, hc⟩
      · rw [Nat.toDigits_of_base_le hbase (Nat.le_of_not_lt hn), List.mem_append] at hc
        rcases hc with hc | hc
        · have hsmaller : n / base < n := Nat.div_lt_self (by omega) hbase
          exact ih _ hsmaller hc
        · rw [List.mem_singleton] at hc
          exact ⟨n % base, Nat.mod_lt n (by omega), hc⟩

theorem isAsciiSign_digitChar :
    ∀ d < 16, (CodePoint.char (Nat.digitChar d)).isAsciiSign = true := by
  decide

theorem isAscii_toDigits {base : Nat} (hbase : 1 < base) (hsmall : base ≤ 16) (n : Nat) :
    IsAscii (ofChars (Nat.toDigits base n)) := by
  refine List.forall_mem_map.mpr fun c hc => ?_
  obtain ⟨d, hd, rfl⟩ := exists_digit_of_mem_toDigits hbase hc
  exact isAsciiSign_digitChar d (by omega)

theorem isAscii_ofNat (n : Nat) : IsAscii (ofNat n) :=
  isAscii_toDigits (by decide) (by decide) n

theorem isAscii_ofInt (n : Int) : IsAscii (ofInt n) := by
  cases n with
  | ofNat n => exact isAscii_ofNat n
  | negSucc n => exact List.forall_mem_cons.mpr ⟨by decide, isAscii_ofNat (n + 1)⟩

theorem isAscii_zeros (count : Nat) : IsAscii (zeros count) :=
  isAscii_replicate (by decide) count

theorem isAscii_ofNatHex (width n : Nat) : IsAscii (ofNatHex width n) :=
  (isAscii_zeros _).append (isAscii_toDigits (by decide) (by decide) n)

end Text

/-! ## Floating-point numbers -/

namespace Json

open Text

theorem IsRun.isAscii {ds : Text} (hds : IsRun ds) : ds.IsAscii := by
  have hdigit : ∀ d < 10, (digit d).isAsciiSign = true := by
    decide
  intro c hc
  obtain ⟨d, hd, rfl⟩ := exists_digit_of_isAsciiDigit (hds.digits c hc)
  exact hdigit d hd

theorem IsWhole.isAscii {whole : Text} (hwhole : IsWhole whole) : whole.IsAscii := by
  cases hwhole with
  | zero => decide
  | run hds _ => exact hds.isAscii

theorem IsFraction.isAscii {fraction : Text} (hfraction : IsFraction fraction) :
    fraction.IsAscii := by
  cases hfraction with
  | none => exact isAscii_nil
  | some hds => exact List.forall_mem_cons.mpr ⟨by decide, hds.isAscii⟩

theorem IsExponent.isAscii {mark : Text} (hmark : IsExponent mark) : mark.IsAscii := by
  cases hmark with
  | none => exact isAscii_nil
  | some negative hds =>
      refine List.forall_mem_cons.mpr ⟨by decide, List.forall_mem_cons.mpr ⟨?_, hds.isAscii⟩⟩
      cases negative <;> decide

end Json

theorem Binary64.isAscii_text (x : Binary64) : x.text.IsAscii := by
  cases x with
  | nan => decide
  | infinite negative => cases negative <;> decide
  | finite negative mantissa exponent =>
      obtain ⟨whole, fraction, mark, htext, hwhole, hfraction, hmark, -⟩ :=
        Binary64.exists_parts_of_text negative mantissa exponent
      have hsign : (Integer.signText negative).IsAscii := by
        cases negative <;> decide
      rw [htext]
      exact hsign.append (hwhole.isAscii.append (hfraction.isAscii.append hmark.isAscii))

/-! ## Values -/

namespace Json

open Text

theorem isAscii_floatLiteral (x : Binary64) : IsAscii (floatLiteral x) := by
  cases x with
  | nan => decide
  | infinite negative => cases negative <;> decide
  | finite negative mantissa exponent =>
      exact Binary64.isAscii_text (.finite negative mantissa exponent)

theorem isAscii_unitEscape (unit : Nat) : IsAscii (unitEscape unit) := by
  refine isAscii_concat ?_
  simp only [List.forall_mem_cons]
  exact ⟨by decide, isAscii_ofNatHex 4 unit, List.forall_mem_nil _⟩

theorem isAscii_escaped (c : CodePoint) : IsAscii (escaped c) := by
  unfold escaped
  dsimp only
  split_ifs with _ _ _ _ _ _ _ hvisible
  iterate 7 decide
  · refine List.forall_mem_singleton.mpr ?_
    simp [CodePoint.isAsciiSign, hvisible]
  · exact isAscii_unitEscape _
  · exact (isAscii_unitEscape _).append (isAscii_unitEscape _)

theorem isAscii_textLiteral (t : Text) : IsAscii (textLiteral t) := by
  refine isAscii_concat ?_
  simp only [List.forall_mem_cons]
  exact ⟨by decide, isAscii_flatMap fun c _ => isAscii_escaped c, by decide, List.forall_mem_nil _⟩

theorem isAscii_newLine (indent : Nat) : IsAscii (newLine indent) :=
  List.forall_mem_cons.mpr ⟨by decide, isAscii_replicate (by decide) indent⟩

mutual

theorem isAscii_indented (indent : Nat) : (j : Json) → IsAscii (j.indented indent)
  | .null => by
      rw [indented]
      decide
  | .bool true => by
      rw [indented]
      decide
  | .bool false => by
      rw [indented]
      decide
  | .int n => by
      rw [indented]
      exact isAscii_ofInt n
  | .float x => by
      rw [indented]
      exact isAscii_floatLiteral x
  | .text t => by
      rw [indented]
      exact isAscii_textLiteral t
  | .array [] => by
      rw [indented]
      decide
  | .array (item :: items) => by
      rw [indented]
      refine isAscii_concat ?_
      simp only [List.forall_mem_cons]
      exact ⟨by decide, isAscii_newLine _, isAscii_indented _ item, isAscii_indentedItems _ items,
        isAscii_newLine _, by decide, List.forall_mem_nil _⟩
  | .object [] => by
      rw [indented]
      decide
  | .object ((name, value) :: fields) => by
      rw [indented]
      refine isAscii_concat ?_
      simp only [List.forall_mem_cons]
      exact ⟨by decide, isAscii_newLine _, isAscii_textLiteral name, by decide,
        isAscii_indented _ value, isAscii_indentedFields _ fields, isAscii_newLine _, by decide,
        List.forall_mem_nil _⟩

theorem isAscii_indentedItems (indent : Nat) :
    (items : List Json) → IsAscii (indentedItems indent items)
  | [] => isAscii_nil
  | item :: items => by
      rw [indentedItems]
      refine isAscii_concat ?_
      simp only [List.forall_mem_cons]
      exact ⟨by decide, isAscii_newLine _, isAscii_indented _ item, isAscii_indentedItems _ items,
        List.forall_mem_nil _⟩

theorem isAscii_indentedFields (indent : Nat) :
    (fields : List (Text × Json)) → IsAscii (indentedFields indent fields)
  | [] => isAscii_nil
  | (name, value) :: fields => by
      rw [indentedFields]
      refine isAscii_concat ?_
      simp only [List.forall_mem_cons]
      exact ⟨by decide, isAscii_newLine _, isAscii_textLiteral name, by decide,
        isAscii_indented _ value, isAscii_indentedFields _ fields, List.forall_mem_nil _⟩

end

end Json
end ActorManifest
