import ActorManifest.Time.Iso
import Mathlib.Algebra.Group.Nat.Defs

/-!
# Numbers of a fixed width

Dates and times are written with a fixed number of digits for each part.  A number that
fits is written with its last digits in that width, and the readers of digits, of code
points as well as of octets, give the number back and stop behind it.
-/

namespace ActorManifest
namespace Text

/-- A digit. -/
def digit (n : Nat) : CodePoint :=
  .char (Nat.digitChar n)

/-- The last digits of a number, as many as the width says. -/
def fixed : (width : Nat) → (n : Nat) → Text
  | 0, _ => []
  | width + 1, n => fixed width (n / 10) ++ [digit (n % 10)]

@[simp] theorem length_fixed (width n : Nat) : (fixed width n).length = width := by
  induction width generalizing n with
  | zero => rfl
  | succ width ih => simp [fixed, ih]

theorem fixed_zero (width : Nat) : fixed width 0 = zeros width := by
  induction width with
  | zero => rfl
  | succ width ih =>
      rw [fixed, Nat.zero_div, ih, zeros, zeros, List.replicate_succ']
      rfl

theorem ofNat_of_lt {n : Nat} (hn : n < 10) : ofNat n = [digit n] := by
  rw [ofNat, Nat.toDigits_of_lt_base hn]
  rfl

theorem ofNat_of_le {n : Nat} (hn : 10 ≤ n) : ofNat n = ofNat (n / 10) ++ [digit (n % 10)] := by
  rw [ofNat, Nat.toDigits_of_base_le (by decide) hn, ofChars, List.map_append]
  rfl

/-- A number that fits is written with zeros in front up to the width. -/
theorem ofNatPadded_eq_fixed
    {width n : Nat} (hwidth : 0 < width) (hn : n < 10 ^ width) :
    ofNatPadded width n = fixed width n := by
  induction width generalizing n with
  | zero => exact absurd hwidth (Nat.lt_irrefl 0)
  | succ width ih =>
      by_cases hsmall : n < 10
      · have hdiv : n / 10 = 0 := Nat.div_eq_of_lt hsmall
        have hmod : n % 10 = n := Nat.mod_eq_of_lt hsmall
        simp [ofNatPadded, ofNat_of_lt hsmall, fixed, hdiv, hmod, fixed_zero]
      · have hfits : n / 10 < 10 ^ width := by
          rw [Nat.pow_succ] at hn
          omega
        have hpositive : 0 < width := by
          rcases Nat.eq_zero_or_pos width with rfl | hpositive
          · omega
          · exact hpositive
        have hrest := ih hpositive hfits
        rw [ofNatPadded] at hrest
        rw [ofNatPadded, ofNat_of_le (by omega), fixed, ← hrest]
        simp

/-- A number without zeros in front has the width of its digits. -/
theorem ofNat_eq_fixed
    {width n : Nat} (hwidth : 10 ^ width ≤ n) (hn : n < 10 ^ (width + 1)) :
    ofNat n = fixed (width + 1) n := by
  induction width generalizing n with
  | zero =>
      have hmod : n % 10 = n := Nat.mod_eq_of_lt (by omega)
      rw [ofNat_of_lt (by omega), fixed, hmod]
      rfl
  | succ width ih =>
      have hlow : 10 ^ width ≤ n / 10 := by
        rw [Nat.pow_succ] at hwidth
        omega
      have hhigh : n / 10 < 10 ^ (width + 1) := by
        rw [Nat.pow_succ] at hn
        omega
      have hten : 10 ≤ n := by
        have hpositive : 0 < 10 ^ width := Nat.pow_pos (by decide)
        omega
      rw [ofNat_of_le hten, ih hlow hhigh]
      rfl

/-! ## Digits as code points -/

theorem isAsciiDigit_digit : ∀ n < 10, (digit n).isAsciiDigit = true := by
  decide

theorem hexValue?_digit : ∀ n < 10, (digit n).hexValue? = some n := by
  decide

/-- A character that is no digit is none of the digits of a number. -/
theorem digit_ne {n : Nat} {c : Char} (hn : n < 10) (hc : c.isDigit = false) :
    digit n ≠ .char c := by
  intro heq
  have hdigit := isAsciiDigit_digit n hn
  rw [heq] at hdigit
  exact Bool.false_ne_true (hc.symm.trans hdigit)

theorem all_isAsciiDigit_fixed (width n : Nat) :
    (fixed width n).all CodePoint.isAsciiDigit = true := by
  induction width generalizing n with
  | zero => rfl
  | succ width ih =>
      simp [fixed, ih, isAsciiDigit_digit (n % 10) (Nat.mod_lt n (by decide))]

/-- The value of one digit more. -/
theorem mod_pow_succ_eq (n width : Nat) :
    n % 10 ^ (width + 1) = n / 10 % 10 ^ width * 10 + n % 10 := by
  rw [Nat.pow_succ', Nat.mod_mul]
  omega

end Text

namespace Iso

open Text

/-- A number that fits is read back from its width. -/
theorem number?_fixed {width n : Nat} (hn : n < 10 ^ width) :
    number? width (fixed width n) = some n := by
  have hvalue : ∀ width n, ((fixed width n).filterMap CodePoint.hexValue?).foldl
      (fun n d => n * 10 + d) 0 = n % 10 ^ width := by
    intro width
    induction width with
    | zero => simp [fixed, Nat.mod_one]
    | succ width ih =>
        intro n
        have hlast := hexValue?_digit (n % 10) (Nat.mod_lt n (by decide))
        simp [fixed, List.filterMap_append, hlast, ih, mod_pow_succ_eq]
  rw [number?, length_fixed, all_isAsciiDigit_fixed, hvalue, Nat.mod_eq_of_lt hn]
  simp

/-! ## Digits as octets -/

/-- The octet of a digit. -/
def digitOctet (n : Nat) : UInt8 :=
  UInt8.ofNat (0x30 + n)

/-- The octets of the last digits of a number. -/
def fixedOctets : (width : Nat) → (n : Nat) → List UInt8
  | 0, _ => []
  | width + 1, n => fixedOctets width (n / 10) ++ [digitOctet (n % 10)]

@[simp] theorem length_fixedOctets (width n : Nat) : (fixedOctets width n).length = width := by
  induction width generalizing n with
  | zero => rfl
  | succ width ih => simp [fixedOctets, ih]

theorem digit?_digitOctet : ∀ n < 10, digit? (digitOctet n) = some n := by
  decide

theorem encode?_digit : ∀ n < 10, Utf8.encode? [digit n] = some [digitOctet n] := by
  decide

theorem encode?_append
    {first second : Text} {octets more : List UInt8}
    (hfirst : Utf8.encode? first = some octets) (hsecond : Utf8.encode? second = some more) :
    Utf8.encode? (first ++ second) = some (octets ++ more) := by
  simp only [Utf8.encode?, toChars?, Option.map_eq_some_iff, List.mapM_append] at *
  obtain ⟨cs, hcs, rfl⟩ := hfirst
  obtain ⟨ds, hds, rfl⟩ := hsecond
  exact ⟨cs ++ ds, by simp [hcs, hds], by simp⟩

theorem encode?_fixed (width n : Nat) :
    Utf8.encode? (fixed width n) = some (fixedOctets width n) := by
  induction width generalizing n with
  | zero => rfl
  | succ width ih =>
      exact encode?_append (ih (n / 10)) (encode?_digit (n % 10) (Nat.mod_lt n (by decide)))

theorem takeDigits?_add (first second value : Nat) (octets : List UInt8) :
    takeDigits? (first + second) value octets =
      (takeDigits? first value octets).bind fun (value, rest) =>
        takeDigits? second value rest := by
  induction first generalizing value octets with
  | zero => simp [takeDigits?]
  | succ first ih =>
      rw [Nat.succ_add]
      cases octets with
      | nil => rfl
      | cons octet rest =>
          simp only [takeDigits?, ih]
          cases digit? octet <;> rfl

/-- Digits are taken as the number that they write, and the rest is left. -/
theorem takeDigits?_fixedOctets (width value n : Nat) (rest : List UInt8) :
    takeDigits? width value (fixedOctets width n ++ rest) =
      some (value * 10 ^ width + n % 10 ^ width, rest) := by
  induction width generalizing n rest with
  | zero => simp [takeDigits?, fixedOctets, Nat.mod_one]
  | succ width ih =>
      have hlast := digit?_digitOctet (n % 10) (Nat.mod_lt n (by decide))
      rw [takeDigits?_add, fixedOctets, List.append_assoc, ih]
      simp only [Option.bind_some, List.singleton_append, takeDigits?, hlast]
      rw [mod_pow_succ_eq, Nat.pow_succ, Nat.add_mul, Nat.mul_assoc, Nat.add_assoc]

/-- A number is read back from its digits if they are enough for it. -/
theorem takeDigits?_fixedOctets_of_lt
    {width n : Nat} (hn : n < 10 ^ width) (rest : List UInt8) :
    takeDigits? width 0 (fixedOctets width n ++ rest) = some (n, rest) := by
  rw [takeDigits?_fixedOctets, Nat.zero_mul, Nat.zero_add, Nat.mod_eq_of_lt hn]

end Iso
end ActorManifest
