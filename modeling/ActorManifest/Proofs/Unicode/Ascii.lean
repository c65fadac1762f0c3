import ActorManifest.Proofs.Unicode.CaseMap
import Mathlib

/-!
# ASCII text

On the first 128 code points the tables say of a character what its own class says, and its
counterparts in case are the single characters that are usual for it.
-/

namespace ActorManifest

/-! ## ASCII characters -/

namespace CodePoint

/-- Whether the code point is one of the letters `a` to `z` of either case. -/
def isAsciiLetter : CodePoint → Bool
  | .char a => a.isAlpha
  | .surrogate _ => false

/-- Whether the code point is an ASCII letter or an ASCII digit. -/
def isAsciiAlphanum (c : CodePoint) : Bool :=
  c.isAsciiLetter || c.isAsciiDigit

/-- The code point with its character replaced. -/
def mapChar (f : Char → Char) : CodePoint → CodePoint
  | .char a => .char (f a)
  | .surrogate offset => .surrogate offset

variable {a : Char} {c : CodePoint}

theorem mapChar_toLower_toUpper (c : CodePoint) :
    (c.mapChar Char.toUpper).mapChar Char.toLower = c.mapChar Char.toLower := by
  cases c with
  | char a => exact congrArg char (Char.toLower_toUpper_eq_toLower a)
  | surrogate offset => rfl

theorem mapChar_toLower_toLower (c : CodePoint) :
    (c.mapChar Char.toLower).mapChar Char.toLower = c.mapChar Char.toLower := by
  cases c with
  | char a => exact congrArg char (Char.toLower_toLower_eq_toLower a)
  | surrogate offset => rfl

/-- An ASCII character is one of 128, so a fact about all of them is checked number by number. -/
theorem exists_ofNat_of_lt (ha : a.toNat < 128) : ∃ n < 128, Char.ofNat n = a :=
  ⟨a.toNat, ha, Char.ofNat_toNat a⟩

theorem exists_char_of_lt (hc : c.toNat < 128) : ∃ a : Char, c = .char a ∧ a.toNat < 128 := by
  cases c with
  | char a => exact ⟨a, rfl, hc⟩
  | surrogate offset =>
      simp only [toNat] at hc
      omega

theorem lt_of_isAlphanum (ha : a.isAlphanum = true) : a.toNat < 128 := by
  simp only [Char.isAlphanum, Char.isAlpha, Char.isUpper, Char.isLower, Char.isDigit,
    Bool.or_eq_true, Bool.and_eq_true, decide_eq_true_eq, UInt32.le_iff_toNat_le, ge_iff_le] at ha
  change ((65 ≤ a.toNat ∧ a.toNat ≤ 90) ∨ (97 ≤ a.toNat ∧ a.toNat ≤ 122)) ∨
    (48 ≤ a.toNat ∧ a.toNat ≤ 57) at ha
  omega

theorem lt_of_isAsciiAlphanum (hc : c.isAsciiAlphanum = true) : c.toNat < 128 := by
  cases c with
  | char a => exact lt_of_isAlphanum hc
  | surrogate offset => cases hc

theorem isAsciiLetter_eq_false (hc : c.isAsciiDigit = true) : c.isAsciiLetter = false := by
  obtain ⟨a, rfl, ha⟩ := exists_char_of_lt
    (lt_of_isAsciiAlphanum (c := c) (by rw [isAsciiAlphanum, hc, Bool.or_true]))
  have hclass : ∀ n < 128, (Char.ofNat n).isDigit = true → (Char.ofNat n).isAlpha = false := by
    decide +kernel
  obtain ⟨n, hn, rfl⟩ := exists_ofNat_of_lt ha
  exact hclass n hn hc

/-- A change of case keeps letters and digits among themselves. -/
theorem isAsciiAlphanum_mapChar (hc : c.toNat < 128) :
    (c.mapChar Char.toLower).isAsciiAlphanum = c.isAsciiAlphanum ∧
      (c.mapChar Char.toUpper).isAsciiAlphanum = c.isAsciiAlphanum := by
  obtain ⟨a, rfl, ha⟩ := exists_char_of_lt hc
  have hclass : ∀ n < 128, (Char.ofNat n).toLower.isAlphanum = (Char.ofNat n).isAlphanum ∧
      (Char.ofNat n).toUpper.isAlphanum = (Char.ofNat n).isAlphanum := by
    decide +kernel
  obtain ⟨n, hn, rfl⟩ := exists_ofNat_of_lt ha
  exact hclass n hn

end CodePoint

namespace Unicode

open CodePoint

variable {a : Char} {c : CodePoint}

theorem ascii_counterparts (ha : a.toNat < 128) :
    toLower (.char a) = [.char a.toLower] ∧ toTitle (.char a) = [.char a.toUpper] := by
  have htables : ∀ n < 128, toLower (.char (Char.ofNat n)) = [.char (Char.ofNat n).toLower] ∧
      toTitle (.char (Char.ofNat n)) = [.char (Char.ofNat n).toUpper] := by
    decide +kernel
  obtain ⟨n, hn, rfl⟩ := exists_ofNat_of_lt ha
  exact htables n hn

theorem isWordSign_of_lt (hc : c.toNat < 128) : isWordSign c = c.isAsciiAlphanum := by
  obtain ⟨a, rfl, ha⟩ := exists_char_of_lt hc
  have htable : ∀ n < 128, isWordSign (.char (Char.ofNat n)) = (Char.ofNat n).isAlphanum := by
    decide +kernel
  obtain ⟨n, hn, rfl⟩ := exists_ofNat_of_lt ha
  exact htable n hn

theorem isDigit_of_isAsciiAlphanum (hc : c.isAsciiAlphanum = true) :
    isDigit c = !c.isAsciiLetter := by
  obtain ⟨a, rfl, ha⟩ := exists_char_of_lt (lt_of_isAsciiAlphanum hc)
  have htable : ∀ n < 128, (Char.ofNat n).isAlphanum = true →
      isDigit (.char (Char.ofNat n)) = !(Char.ofNat n).isAlpha := by
    decide +kernel
  obtain ⟨n, hn, rfl⟩ := exists_ofNat_of_lt ha
  exact htable n hn hc

/-! ## Digits, capitals and small letters -/

/-- The code point counts as a digit and has no case. -/
structure IsFigure (c : CodePoint) : Prop where
  digit : isDigit c = true
  upper : isUpper c = false
  lower : isLower c = false
  small : IsSmall c

/-- The code point counts as a capital and has another lower-case form. -/
structure IsCapital (c : CodePoint) : Prop where
  digit : isDigit c = false
  upper : isUpper c = true
  lower : isLower c = false
  large : ¬IsSmall c

/-- The code point counts as a small letter and is its own lower-case form. -/
structure IsLittle (c : CodePoint) : Prop where
  digit : isDigit c = false
  upper : isUpper c = false
  lower : isLower c = true
  small : IsSmall c

theorem isFigure_of_isDigit (ha : a.isDigit = true) : IsFigure (.char a) := by
  have htables : ∀ n < 128, (Char.ofNat n).isDigit = true →
      isDigit (.char (Char.ofNat n)) = true ∧ isUpper (.char (Char.ofNat n)) = false ∧
        isLower (.char (Char.ofNat n)) = false ∧ IsSmall (.char (Char.ofNat n)) := by
    decide +kernel
  have hlt : a.toNat < 128 := lt_of_isAlphanum (by simp [Char.isAlphanum, ha])
  obtain ⟨n, hn, rfl⟩ := exists_ofNat_of_lt hlt
  obtain ⟨hdigit, hupper, hlower, hsmall⟩ := htables n hn ha
  exact ⟨hdigit, hupper, hlower, hsmall⟩

theorem isCapital_of_isUpper (ha : a.isUpper = true) : IsCapital (.char a) := by
  have htables : ∀ n < 128, (Char.ofNat n).isUpper = true →
      isDigit (.char (Char.ofNat n)) = false ∧ isUpper (.char (Char.ofNat n)) = true ∧
        isLower (.char (Char.ofNat n)) = false ∧ ¬IsSmall (.char (Char.ofNat n)) := by
    decide +kernel
  have hlt : a.toNat < 128 := lt_of_isAlphanum (by simp [Char.isAlphanum, Char.isAlpha, ha])
  obtain ⟨n, hn, rfl⟩ := exists_ofNat_of_lt hlt
  obtain ⟨hdigit, hupper, hlower, hlarge⟩ := htables n hn ha
  exact ⟨hdigit, hupper, hlower, hlarge⟩

theorem isLittle_of_isLower (ha : a.isLower = true) : IsLittle (.char a) := by
  have htables : ∀ n < 128, (Char.ofNat n).isLower = true →
      isDigit (.char (Char.ofNat n)) = false ∧ isUpper (.char (Char.ofNat n)) = false ∧
        isLower (.char (Char.ofNat n)) = true ∧ IsSmall (.char (Char.ofNat n)) := by
    decide +kernel
  have hlt : a.toNat < 128 := lt_of_isAlphanum (by simp [Char.isAlphanum, Char.isAlpha, ha])
  obtain ⟨n, hn, rfl⟩ := exists_ofNat_of_lt hlt
  obtain ⟨hdigit, hupper, hlower, hsmall⟩ := htables n hn ha
  exact ⟨hdigit, hupper, hlower, hsmall⟩

/-- A letter becomes a capital at the start of a word and a small letter inside it. -/
theorem mapChar_of_isAsciiLetter (hc : c.isAsciiLetter = true) :
    IsCapital (c.mapChar Char.toUpper) ∧ IsLittle (c.mapChar Char.toLower) := by
  cases c with
  | surrogate offset => cases hc
  | char a =>
      exact ⟨isCapital_of_isUpper ((Char.isUpper_toUpper_eq_isAlpha a).trans hc),
        isLittle_of_isLower ((Char.isLower_toLower_eq_isAlpha a).trans hc)⟩

/-- A digit has no other case. -/
theorem mapChar_of_isAsciiDigit (hc : c.isAsciiDigit = true) :
    IsFigure (c.mapChar Char.toUpper) ∧ IsFigure (c.mapChar Char.toLower) := by
  cases c with
  | surrogate offset => cases hc
  | char a =>
      have hcase : ∀ n < 128, (Char.ofNat n).isDigit = true →
          (Char.ofNat n).toUpper.isDigit = true ∧ (Char.ofNat n).toLower.isDigit = true := by
        decide +kernel
      have ha : a.isDigit = true := hc
      have hlt : a.toNat < 128 := lt_of_isAlphanum (by simp [Char.isAlphanum, ha])
      obtain ⟨n, hn, rfl⟩ := exists_ofNat_of_lt hlt
      obtain ⟨hupper, hlower⟩ := hcase n hn ha
      exact ⟨isFigure_of_isDigit hupper, isFigure_of_isDigit hlower⟩

end Unicode

/-! ## ASCII text -/

namespace Text

open CodePoint Unicode

variable {c : CodePoint} {t : Text}

theorem lowerAfter_of_lt (before : Text) (ht : ∀ c ∈ t, c.toNat < 128) :
    lowerAfter before t = t.map (mapChar Char.toLower) := by
  induction t generalizing before with
  | nil => rfl
  | cons c t ih =>
      rw [List.forall_mem_cons] at ht
      obtain ⟨a, rfl, ha⟩ := exists_char_of_lt ht.1
      have hsigma : CodePoint.char a ≠ capitalSigma := by
        intro heq
        rw [heq] at ht
        exact absurd ht.1 (by decide)
      simp only [lowerAfter, if_neg hsigma]
      rw [(ascii_counterparts ha).1, ih _ ht.2, List.singleton_append]
      rfl

theorem capitalize_of_lt (hc : c.toNat < 128) (ht : ∀ d ∈ t, d.toNat < 128) :
    capitalize (c :: t) = c.mapChar Char.toUpper :: t.map (mapChar Char.toLower) := by
  obtain ⟨a, rfl, ha⟩ := exists_char_of_lt hc
  rw [capitalize, (ascii_counterparts ha).2, lowerAfter_of_lt _ ht, List.singleton_append]
  rfl

end Text
end ActorManifest
