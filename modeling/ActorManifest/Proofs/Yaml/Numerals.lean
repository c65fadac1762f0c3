import ActorManifest.Proofs.Json.Numeral
import ActorManifest.Proofs.Source.Locator
import ActorManifest.Proofs.Yaml.Plain
import ActorManifest.Yaml.Value

/-!
# Whole numbers and words

A whole number is written as it is in JSON.  Its numeral is a plain scalar with the form of whole
numbers, and with that form it is read as the number.  The words for null and for truth values
are plain as well.
-/

namespace ActorManifest
namespace Yaml

open Text

variable {t : Text} {n : Int}

/-- All code points of the text are digits. -/
def IsDigits (t : Text) : Prop :=
  ∀ p ∈ t, ∃ d < 10, p = digit d

/-- A text of digits that begins with none but zero only if it is zero. -/
inductive IsNumeral : Text → Prop
  | zero : IsNumeral (ofString "0")
  | positive {d : Nat} {t : Text} (hd : 0 < d ∧ d < 10) (ht : IsDigits t) : IsNumeral (digit d :: t)

theorem isNumeral_ofNat (n : Nat) : IsNumeral (ofNat n) := by
  rcases Nat.eq_zero_or_pos n with rfl | hn
  · exact .zero
  · obtain ⟨d, rest, hd, hpositive, hdigits⟩ := exists_ofNat_eq_cons n
    rw [hdigits]
    refine .positive ⟨hpositive hn, hd⟩ fun p hp => ?_
    exact exists_digit_of_mem_ofNat (hdigits ▸ List.mem_cons_of_mem _ hp)

theorem IsNumeral.isDigits (ht : IsNumeral t) : IsDigits t := by
  cases ht with
  | zero => exact List.forall_mem_singleton.mpr ⟨0, by decide, rfl⟩
  | positive hd ht => exact List.forall_mem_cons.mpr ⟨⟨_, hd.2, rfl⟩, ht⟩

theorem IsNumeral.filled (ht : IsNumeral t) : t ≠ [] := by
  cases ht <;> exact List.cons_ne_nil _ _

theorem IsDigits.not_mem (ht : IsDigits t) {c : Char} (hc : c.isDigit = false) :
    CodePoint.char c ∉ t := by
  intro hmem
  obtain ⟨d, hd, heq⟩ := ht _ hmem
  exact digit_ne hd hc heq.symm

theorem isDigits_ofNat (n : Nat) : IsDigits (ofNat n) :=
  (isNumeral_ofNat n).isDigits

/-- A whole number is written as a sign, if it is negative, and a numeral. -/
theorem exists_numeral_of_ofInt (n : Int) :
    ∃ negative, ofInt n = Integer.signText negative ++ ofNat n.natAbs ∧
      withSign negative n.natAbs = n := by
  cases n with
  | ofNat n => exact ⟨false, rfl, rfl⟩
  | negSucc n => exact ⟨true, rfl, rfl⟩

/-! ## Plain words -/

theorem holdsMark_of_forall (ht : ∀ p ∈ t, p ≠ .char ':' ∧ p ≠ .char '#') :
    Writer.holdsMark t = false := by
  induction t with
  | nil => rfl
  | cons p t ih =>
      obtain ⟨-, ht⟩ := List.forall_mem_cons.mp ht
      rw [Writer.holdsMark, ih ht]
      cases t with
      | nil => rfl
      | cons q t =>
          obtain ⟨hq, -⟩ := List.forall_mem_cons.mp ht
          simp [hq]

/-- A text of printable signs other than spaces, colons and number signs is plain, provided
that it begins well. -/
theorem isPlain_of_forall
    (ht : ∀ p ∈ t, (Writer.isSimple p = true ∧ Writer.isFeed p = false) ∧
      Writer.isSpace p = false ∧ p ≠ .char ':' ∧ p ≠ .char '#')
    (hfilled : t ≠ []) (hbegins : Writer.beginsWithMark t = false) : IsPlain t where
  simple p hp := (ht p hp).1
  filled := hfilled
  head := by
    rw [Option.any_eq_false]
    exact fun p hp => by simp [(ht p (List.mem_of_mem_head? hp)).2.1]
  last := by
    rw [Option.any_eq_false]
    exact fun p hp => by simp [(ht p (List.mem_of_mem_getLast? hp)).2.1]
  begins := hbegins
  holds := holdsMark_of_forall fun p hp => (ht p hp).2.2

theorem beginsWithMark_numeral (negative : Bool) (ht : IsNumeral t) :
    Writer.beginsWithMark (Integer.signText negative ++ t) = false := by
  obtain ⟨d, v, hd, rfl⟩ : ∃ d v, d < 10 ∧ t = digit d :: v := by
    cases ht with
    | zero => exact ⟨0, [], by decide, rfl⟩
    | positive hd _ => exact ⟨_, _, hd.2, rfl⟩
  have hdash : CodePoint.char '-' ≠ digit d := (digit_ne hd (by decide)).symm
  have hdot : CodePoint.char '.' ≠ digit d := (digit_ne hd (by decide)).symm
  have hsign : ∀ d < 10, digit d ∉ Writer.leadingSigns ∧ digit d ∉ Writer.leadingMarks ∧
      Writer.isSpace (digit d) = false ∧ Writer.isFeed (digit d) = false := by
    decide
  obtain ⟨hsigns, hmarks, hspace, hfeed⟩ := hsign d hd
  cases negative with
  | true =>
      have hlead : CodePoint.char '-' ∉ Writer.leadingSigns := by decide
      simp [Integer.signText, Writer.beginsWithMark, ofString, after?, hdash, hlead,
        Writer.atGap, hspace, hfeed]
  | false =>
      simp [Integer.signText, Writer.beginsWithMark, ofString, after?, hdash, hdot, hsigns, hmarks]

theorem isPlain_ofInt (n : Int) : IsPlain (ofInt n) := by
  obtain ⟨negative, hform, -⟩ := exists_numeral_of_ofInt n
  have hdigit : ∀ d < 10, (Writer.isSimple (digit d) = true ∧ Writer.isFeed (digit d) = false) ∧
      Writer.isSpace (digit d) = false ∧ digit d ≠ .char ':' ∧ digit d ≠ .char '#' := by
    decide
  have hsign : ∀ negative, ∀ p ∈ Integer.signText negative,
      (Writer.isSimple p = true ∧ Writer.isFeed p = false) ∧
        Writer.isSpace p = false ∧ p ≠ .char ':' ∧ p ≠ .char '#' := by
    decide
  rw [hform]
  refine isPlain_of_forall ?_ ?_ (beginsWithMark_numeral negative (isNumeral_ofNat _))
  · refine List.forall_mem_append.mpr ⟨hsign negative, fun p hp => ?_⟩
    obtain ⟨d, hd, rfl⟩ := isDigits_ofNat _ p hp
    exact hdigit d hd
  · exact List.append_ne_nil_of_right_ne_nil _ (isNumeral_ofNat _).filled

/-! ## Forms -/

theorem dropLastBreak_eq_self (ht : .char '\n' ∉ t) : dropLastBreak t = t := by
  unfold dropLastBreak
  split
  · rename_i before hreverse
    exact absurd (List.mem_reverse.mp (hreverse ▸ List.mem_cons_self)) ht
  · rfl

theorem splitAll_eq_singleton {separator : CodePoint} (ht : separator ∉ t) :
    splitAll separator t = [t] := by
  induction t with
  | nil => rfl
  | cons c t ih =>
      rw [List.mem_cons, not_or] at ht
      rw [splitAll, ih ht.2]
      dsimp only
      rw [if_neg (Ne.symm ht.1)]

theorem dropSign_numeral (negative : Bool) (ht : IsNumeral t) :
    dropSign (Integer.signText negative ++ t) = t := by
  cases negative with
  | true => rfl
  | false =>
      change dropSign t = t
      have hnot : ∀ c : Char, c.isDigit = false → CodePoint.char c ∉ t := fun c hc =>
        ht.isDigits.not_mem hc
      unfold dropSign
      split
      · exact absurd List.mem_cons_self (hnot '-' (by decide))
      · exact absurd List.mem_cons_self (hnot '+' (by decide))
      · rfl

theorem isInteger_numeral (negative : Bool) (ht : IsNumeral t) :
    isInteger (Integer.signText negative ++ t) = true := by
  unfold isInteger
  rw [dropSign_numeral negative ht]
  cases ht with
  | zero => rfl
  | @positive d v hd hv =>
      have hzero : ∀ d < 10, 0 < d → digit d ≠ .char '0' := by decide
      have hzero' := hzero d hd.2 hd.1
      split
      · exact absurd (List.cons.inj ‹_›).1 hzero'
      · exact absurd (List.cons.inj ‹_›).1 hzero'
      · exact absurd (List.cons.inj ‹_›).1 hzero'
      · exact absurd (List.cons.inj ‹_›).1 hzero'
      · have hcolon : CodePoint.char ':' ∉ digit d :: v :=
          IsDigits.not_mem (IsNumeral.positive hd hv).isDigits (by decide)
        have hrest : v.all isSpacedDigit = true := by
          rw [List.all_eq_true]
          intro p hp
          obtain ⟨x, hx, rfl⟩ := hv p hp
          simp [isSpacedDigit, orUnderscore, isAsciiDigit_digit x hx]
        rw [splitAll_eq_singleton hcolon]
        simp [isSpacedNumber, isAsciiDigit_digit d hd.2, hzero', hrest]

theorem not_mem_numeral
    (negative : Bool) (ht : IsDigits t) {c : Char} (hc : c.isDigit = false) (hdash : c ≠ '-') :
    CodePoint.char c ∉ Integer.signText negative ++ t := by
  have hsign : CodePoint.char c ∉ Integer.signText negative := by
    cases negative with
    | true => simpa [Integer.signText, ofString] using hdash
    | false => exact List.not_mem_nil
  rw [List.mem_append, not_or]
  exact ⟨hsign, ht.not_mem hc⟩

theorem isFloat_numeral (negative : Bool) (ht : IsNumeral t) :
    isFloat (Integer.signText negative ++ t) = false := by
  have hpoint : CodePoint.char '.' ∉ t := ht.isDigits.not_mem (by decide)
  have hpoint' : CodePoint.char '.' ∉ Integer.signText negative ++ t :=
    not_mem_numeral negative ht.isDigits (by decide) (by decide)
  have hwords : ∀ w ∈ infinityWords ++ nanWords, CodePoint.char '.' ∈ w := by decide
  have hcut : cutAt? (.char '.') t = none := cutAt?_eq_none_iff.mpr hpoint
  have hinfinity : infinityWords.contains t = false := by
    rw [Bool.eq_false_iff, ne_eq, List.contains_iff_mem]
    exact fun hmem => hpoint (hwords t (List.mem_append_left _ hmem))
  have hnan : nanWords.contains (Integer.signText negative ++ t) = false := by
    rw [Bool.eq_false_iff, ne_eq, List.contains_iff_mem]
    exact fun hmem => hpoint' (hwords _ (List.mem_append_right _ hmem))
  unfold isFloat isSixtyFloat
  rw [dropSign_numeral negative ht]
  dsimp only
  rw [hcut, hinfinity, hnan]
  dsimp only
  split
  · rename_i heq
    exact absurd (heq ▸ List.mem_cons_self) hpoint'
  · rfl

/-- A numeral has the form of whole numbers. -/
theorem ofPlain_ofInt (n : Int) : Tag.ofPlain (ofInt n) = .int := by
  obtain ⟨negative, hform, -⟩ := exists_numeral_of_ofInt n
  have hnumeral := isNumeral_ofNat n.natAbs
  have hfeed : CodePoint.char '\n' ∉ Integer.signText negative ++ ofNat n.natAbs :=
    not_mem_numeral negative hnumeral.isDigits (by decide) (by decide)
  have hwords : boolWords.contains (Integer.signText negative ++ ofNat n.natAbs) = false := by
    have hletters : ∀ w ∈ boolWords, ∀ p ∈ w, p.isAsciiDigit = false := by decide
    obtain ⟨p, hp⟩ := List.exists_mem_of_ne_nil _ hnumeral.filled
    obtain ⟨d, hd, rfl⟩ := hnumeral.isDigits p hp
    rw [Bool.eq_false_iff, ne_eq, List.contains_iff_mem]
    intro hmem
    have hletter := hletters _ hmem _ (List.mem_append_right _ hp)
    rw [isAsciiDigit_digit d hd] at hletter
    cases hletter
  rw [hform, Tag.ofPlain, dropLastBreak_eq_self hfeed, hwords, isFloat_numeral negative hnumeral,
    isInteger_numeral negative hnumeral]
  rfl

/-! ## Values -/

theorem dropUnderscores_eq_self (ht : .char '_' ∉ t) : dropUnderscores t = t := by
  rw [dropUnderscores, List.filter_eq_self]
  intro p hp
  rw [bne_iff_ne]
  rintro rfl
  exact ht hp

theorem splitSign_numeral (negative : Bool) (ht : IsNumeral t) :
    splitSign (Integer.signText negative ++ t) = .ok (negative, t) := by
  cases negative with
  | true => rfl
  | false =>
      change splitSign t = _
      have hnot : ∀ c : Char, c.isDigit = false → CodePoint.char c ∉ t := fun c hc =>
        ht.isDigits.not_mem hc
      unfold splitSign
      split
      · exact absurd rfl ht.filled
      · exact absurd List.mem_cons_self (hnot '-' (by decide))
      · exact absurd List.mem_cons_self (hnot '+' (by decide))
      · rfl

theorem integerValue_numeral
    {m : Int} (negative : Bool) (ht : IsNumeral t) (hread : integerIn 10 t = .ok m) :
    integerValue (Integer.signText negative ++ t) = .ok (withSign negative m) := by
  have hscore : CodePoint.char '_' ∉ Integer.signText negative ++ t :=
    not_mem_numeral negative ht.isDigits (by decide) (by decide)
  have hcolon : t.contains (.char ':') = false := by
    rw [Bool.eq_false_iff, ne_eq, List.contains_iff_mem]
    exact ht.isDigits.not_mem (by decide)
  rw [integerValue, dropUnderscores_eq_self hscore, splitSign_numeral negative ht]
  simp only [bind, Except.bind]
  cases ht with
  | zero =>
      have hzero : integerIn 10 (ofString "0") = .ok 0 := by rfl
      cases hzero.symm.trans hread
      rfl
  | @positive d v hd hv =>
      have hzero : ∀ d < 10, 0 < d → digit d ≠ .char '0' := by decide
      have hzero' := hzero d hd.2 hd.1
      split
      · exact absurd (List.cons.inj ‹_›).1 hzero'
      · exact absurd (List.cons.inj ‹_›).1 hzero'
      · exact absurd (List.cons.inj ‹_›).1 hzero'
      · exact absurd (List.cons.inj ‹_›).1 hzero'
      · exact absurd ‹_› (List.cons_ne_nil _ _)
      · rw [hcolon, if_neg Bool.false_ne_true, hread]
        rfl

/-- A numeral is read as its number unless it is too long. -/
theorem integerValue_ofInt (hn : isWritable n = true) : integerValue (ofInt n) = .ok n := by
  obtain ⟨negative, hform, hvalue⟩ := exists_numeral_of_ofInt n
  have hshort : isWritable (n.natAbs : Int) = true := by
    rw [← hn, isWritable, isWritable, Int.natAbs_natCast]
  have hread : integerIn 10 (ofNat n.natAbs) = .ok (n.natAbs : Int) := by
    rw [integerIn, show ofNat n.natAbs = ofInt (n.natAbs : Int) from rfl,
      Integer.read?_ofInt hshort]
    rfl
  rw [hform, integerValue_numeral negative (isNumeral_ofNat _) hread, hvalue]

end Yaml
end ActorManifest
