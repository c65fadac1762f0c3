import ActorManifest.Json.Writer
import ActorManifest.Proofs.Json.Numeral
import Mathlib.Data.List.TakeWhile

/-!
# Numbers in a text of values

A number has a whole part, and unless it is a whole number a fraction or an exponent.  It is read up
to the end of its numeral, where nothing follows that could go on with it: no digit, no point and no
mark of an exponent.  A whole number is read as itself, and a floating-point number as one.
-/

namespace ActorManifest

open Text

/-! ## Digits -/

theorem exists_digit_of_isAsciiDigit {c : CodePoint} (hc : c.isAsciiDigit = true) :
    ∃ d < 10, c = digit d := by
  cases c with
  | surrogate => cases hc
  | char c =>
      simp only [CodePoint.isAsciiDigit, Char.isDigit, ge_iff_le, Bool.and_eq_true,
        decide_eq_true_eq] at hc
      have hvalue : ∀ d < 10, (Nat.digitChar d).toNat = 48 + d := by decide
      have hlow : 48 ≤ c.toNat := hc.1
      have hhigh : c.toNat ≤ 57 := hc.2
      refine ⟨c.toNat - 48, by omega, congrArg CodePoint.char (Char.ext ?_)⟩
      refine UInt32.toNat_inj.mp ?_
      have hdigit := hvalue (c.toNat - 48) (by omega)
      simp only [Char.toNat] at hdigit hlow ⊢
      omega

theorem isAsciiDigit_of_mem_ofNat {n : Nat} {c : CodePoint} (hc : c ∈ ofNat n) :
    c.isAsciiDigit = true := by
  obtain ⟨d, hd, rfl⟩ := exists_digit_of_mem_ofNat hc
  exact isAsciiDigit_digit d hd

/-- The digits of a positive number begin with one that is no zero. -/
theorem exists_ofNat_of_pos {n : Nat} (hn : 0 < n) :
    ∃ first more, ofNat n = first :: more ∧ first ≠ .char '0' := by
  obtain ⟨d, more, hd, hpositive, hcons⟩ := exists_ofNat_eq_cons n
  refine ⟨digit d, more, hcons, fun heq => ?_⟩
  have hvalue := hexValue?_digit d hd
  rw [heq] at hvalue
  exact absurd (Option.some.inj hvalue) (Nat.ne_of_lt (hpositive hn))

namespace Json

/-- Nothing follows that could go on with a numeral. -/
def EndsNumeral (rest : Text) : Prop :=
  ∀ c ∈ rest.head?, c.isAsciiDigit = false ∧ c ≠ .char '.' ∧ c ≠ .char 'e' ∧ c ≠ .char 'E'

/-! ## Parts of a numeral -/

/-- The text is a digit or several. -/
structure IsRun (ds : Text) : Prop where
  filled : ds ≠ []
  digits : ∀ c ∈ ds, c.isAsciiDigit = true

/-- The text is zero or begins with another digit. -/
inductive IsWhole : Text → Prop
  | zero : IsWhole "0"
  | run {d : CodePoint} {more : Text} (hds : IsRun (d :: more)) (hd : d ≠ .char '0') :
      IsWhole (d :: more)

/-- The text is a point with digits, or nothing. -/
inductive IsFraction : Text → Prop
  | none : IsFraction []
  | some {ds : Text} (hds : IsRun ds) : IsFraction (.char '.' :: ds)

/-- The text is the mark of an exponent with a sign and digits, or nothing. -/
inductive IsExponent : Text → Prop
  | none : IsExponent []
  | some {ds : Text} (negative : Bool) (hds : IsRun ds) :
      IsExponent (.char 'e' :: .char (if negative then '-' else '+') :: ds)

variable {ds rest whole fraction exponent : Text}

theorem digits_append
    (hds : ∀ c ∈ ds, c.isAsciiDigit = true) (hrest : ∀ c ∈ rest.head?, c.isAsciiDigit = false) :
    digits (ds ++ rest) = (ds, rest) := by
  rw [digits, List.span_eq_takeWhile_dropWhile, List.takeWhile_append_of_pos hds,
    List.dropWhile_append_of_pos hds]
  cases rest with
  | nil => simp
  | cons c rest => simp [hrest c rfl]

theorem wholePart?_append
    (hwhole : IsWhole whole) (hrest : ∀ c ∈ rest.head?, c.isAsciiDigit = false) :
    wholePart? (whole ++ rest) = some (whole, rest) := by
  cases hwhole with
  | zero => rfl
  | run hds hd =>
      unfold wholePart?
      split
      · rename_i heq
        exact absurd (List.cons.inj heq).1 hd
      · rw [digits_append hds.digits hrest]
        rfl

theorem fractionPart_append
    (hfraction : IsFraction fraction)
    (hrest : ∀ c ∈ rest.head?, c.isAsciiDigit = false ∧ c ≠ .char '.') :
    fractionPart (fraction ++ rest) = (fraction, rest) := by
  cases hfraction with
  | none =>
      rw [List.nil_append]
      unfold fractionPart
      split
      · exact absurd rfl (hrest _ rfl).2
      · rfl
  | some hds =>
      have hdigits := digits_append hds.digits fun c hc => (hrest c hc).1
      simp [fractionPart, hdigits, hds.filled]

theorem exponentPart_append (hexponent : IsExponent exponent) (hrest : EndsNumeral rest) :
    exponentPart (exponent ++ rest) = (exponent, rest) := by
  cases hexponent with
  | none =>
      cases rest with
      | nil => rfl
      | cons c rest =>
          obtain ⟨-, -, hsmall, hcapital⟩ := hrest c rfl
          simp [exponentPart, hsmall, hcapital]
  | some negative hds =>
      have hdigits := digits_append hds.digits fun c hc => (hrest c hc).1
      cases negative <;> simp [exponentPart, hdigits, hds.filled, Text.ofString]

/-- What follows a fraction begins with a mark or ends the numeral. -/
theorem head?_exponent_append
    (hexponent : IsExponent exponent) (hrest : EndsNumeral rest) :
    ∀ c ∈ (exponent ++ rest).head?, c.isAsciiDigit = false ∧ c ≠ .char '.' := by
  intro c hc
  cases hexponent with
  | none =>
      obtain ⟨hdigit, hpoint, -, -⟩ := hrest c hc
      exact ⟨hdigit, hpoint⟩
  | some negative hds =>
      cases hc
      decide

theorem head?_fraction_append
    (hfraction : IsFraction fraction)
    (hrest : ∀ c ∈ rest.head?, c.isAsciiDigit = false ∧ c ≠ .char '.') :
    ∀ c ∈ (fraction ++ rest).head?, c.isAsciiDigit = false := by
  intro c hc
  cases hfraction with
  | none => exact (hrest c hc).1
  | some hds =>
      cases hc
      rfl

theorem IsWhole.exists_cons (hwhole : IsWhole whole) :
    ∃ d more, whole = d :: more ∧ d.isAsciiDigit = true := by
  cases hwhole with
  | zero => exact ⟨_, _, rfl, rfl⟩
  | run hds hd => exact ⟨_, _, rfl, hds.digits _ List.mem_cons_self⟩

/-- A numeral is read up to its end, and for a floating-point number if it has more than a whole
part. -/
theorem readNumber_of_parts
    (negative : Bool) (hwhole : IsWhole whole) (hfraction : IsFraction fraction)
    (hexponent : IsExponent exponent) (hrest : EndsNumeral rest) :
    readNumber (Integer.signText negative ++ (whole ++ (fraction ++ (exponent ++ rest)))) =
      if fraction.isEmpty && exponent.isEmpty then
        match Integer.read? 10 (Integer.signText negative ++ whole) with
        | some n => .ok (.int n, rest)
        | none => .error .longNumber
      else
        .ok (.float ((Binary64.read?
          (Integer.signText negative ++ whole ++ fraction ++ exponent)).getD .nan), rest) := by
  have hbehind := head?_exponent_append hexponent hrest
  have hdigits := wholePart?_append hwhole (head?_fraction_append hfraction hbehind)
  have hpoint := fractionPart_append hfraction hbehind
  have hmark := exponentPart_append hexponent hrest
  cases negative with
  | true =>
      change readNumber (.char '-' :: (whole ++ (fraction ++ (exponent ++ rest)))) = _
      simp only [readNumber, hdigits, hpoint, hmark]
      rfl
  | false =>
      obtain ⟨d, more, hcons, hd⟩ := hwhole.exists_cons
      change readNumber (whole ++ (fraction ++ (exponent ++ rest))) = _
      unfold readNumber
      split
      rename_i sign digits hsign
      split at hsign
      · rename_i heq
        rw [hcons] at heq
        obtain ⟨rfl, -⟩ := List.cons.inj heq
        cases hd
      · cases hsign
        simp only [hdigits, hpoint, hmark]
        rfl

/-! ## Whole numbers -/

theorem isWhole_ofNat (n : Nat) : IsWhole (ofNat n) := by
  rcases Nat.eq_zero_or_pos n with rfl | hn
  · exact .zero
  · obtain ⟨first, more, hcons, hfirst⟩ := exists_ofNat_of_pos hn
    rw [hcons]
    refine .run ⟨List.cons_ne_nil _ _, fun c hc => ?_⟩ hfirst
    exact isAsciiDigit_of_mem_ofNat (hcons ▸ hc)

theorem exists_parts_of_ofInt (n : Int) :
    ∃ negative whole, ofInt n = Integer.signText negative ++ whole ∧ IsWhole whole := by
  cases n with
  | ofNat n => exact ⟨false, ofNat n, rfl, isWhole_ofNat n⟩
  | negSucc n => exact ⟨true, ofNat (n + 1), rfl, isWhole_ofNat (n + 1)⟩

/-- A whole number is read up to the end of its numeral. -/
theorem readNumber_ofInt {n : Int} (hn : isWritable n = true) (hrest : EndsNumeral rest) :
    readNumber (ofInt n ++ rest) = .ok (.int n, rest) := by
  obtain ⟨negative, whole, hparts, hwhole⟩ := exists_parts_of_ofInt n
  have hread := readNumber_of_parts negative hwhole .none .none hrest
  rw [hparts, List.append_assoc]
  refine hread.trans ?_
  rw [← hparts, Integer.read?_ofInt hn]
  rfl

theorem isRun_ofNatPadded (width n : Nat) : IsRun (ofNatPadded width n) := by
  obtain ⟨d, more, -, -, hcons⟩ := exists_ofNat_eq_cons n
  constructor
  · simp [ofNatPadded, hcons]
  · intro c hc
    rcases List.mem_append.mp hc with hc | hc
    · rw [List.eq_of_mem_replicate hc]
      rfl
    · exact isAsciiDigit_of_mem_ofNat hc

end Json

/-! ## The significant digits -/

namespace Decimal

open Json

/-- A positive magnitude has a decimal fraction with digits. -/
theorem digits_shortest_pos {mantissa : Nat} (hmantissa : 0 < mantissa) (exponent : Int) :
    0 < (shortest mantissa exponent).digits := by
  unfold shortest
  cases hfound : (List.range' 1 17).findSome? (ofCount? mantissa exponent) with
  | none => exact hmantissa
  | some found =>
      obtain ⟨count, -, hcount⟩ := List.exists_of_findSome?_eq_some hfound
      have hback := List.find?_some hcount
      rw [beq_iff_eq] at hback
      refine Nat.pos_of_ne_zero fun hzero => ?_
      rw [Option.getD_some] at hzero
      rw [toBinary64, if_pos (.inl hzero), Binary64.zeroOf] at hback
      cases hback
      exact Nat.lt_irrefl 0 hmantissa

/-- The digits without zeros at their end begin with a digit that is no zero. -/
theorem exists_significant {d : Decimal} (hd : 0 < d.digits) :
    ∃ first more, ofChars d.significant.1 = first :: more ∧ first ≠ .char '0' ∧
      IsRun (first :: more) := by
  obtain ⟨digit, others, hcons, hdigit⟩ := exists_ofNat_of_pos hd
  -- What is kept is a beginning of all digits, and it holds at least the first of them.
  have hkept : d.significant.1 <+: Nat.toDigits 10 d.digits := by
    have hsuffix := List.dropWhile_suffix (· == '0') (l := (Nat.toDigits 10 d.digits).reverse)
    simpa [significant] using List.reverse_prefix.mpr hsuffix
  have hne : d.significant.1 ≠ [] := by
    intro hnil
    have hzeros : ∀ c ∈ Nat.toDigits 10 d.digits, c = '0' := by
      simpa [significant, List.dropWhile_eq_nil_iff] using hnil
    have hmem : digit ∈ ofNat d.digits := by
      rw [hcons]
      exact List.mem_cons_self
    obtain ⟨c, hc, rfl⟩ := List.mem_map.mp hmem
    exact hdigit (by rw [hzeros c hc])
  obtain ⟨c, more, hsignificant⟩ := List.exists_cons_of_ne_nil hne
  obtain ⟨after, hafter⟩ := hkept
  have hall : ofNat d.digits = .char c :: (ofChars more ++ ofChars after) := by
    rw [ofNat, ← hafter, hsignificant]
    simp [ofChars]
  refine ⟨.char c, ofChars more, by rw [hsignificant]; rfl, ?_, by simp, ?_⟩
  · rw [hall] at hcons
    rw [(List.cons.inj hcons).1]
    exact hdigit
  · intro x hx
    refine isAsciiDigit_of_mem_ofNat (n := d.digits) ?_
    rw [hall, ← List.cons_append]
    exact List.mem_append_left _ hx

end Decimal

namespace Binary64

open Json

theorem isExponent_of_power (power : Int) :
    IsExponent
      ((if power < 0 then ofString "e-" else ofString "e+") ++ ofNatPadded 2 power.natAbs) := by
  split
  · exact .some true (isRun_ofNatPadded 2 _)
  · exact .some false (isRun_ofNatPadded 2 _)

theorem isAsciiDigit_of_mem_zeros {count : Nat} {c : CodePoint} (hc : c ∈ zeros count) :
    c.isAsciiDigit = true := by
  rw [List.eq_of_mem_replicate hc]
  rfl

/-- The text of a magnitude has a whole part with a fraction or an exponent. -/
theorem exists_parts_of_magnitudeText
    {mantissa : Nat} (hmantissa : 0 < mantissa) (exponent : Int) :
    ∃ whole fraction mark, magnitudeText mantissa exponent = whole ++ (fraction ++ mark) ∧
      IsWhole whole ∧ IsFraction fraction ∧ IsExponent mark ∧ (fraction ≠ [] ∨ mark ≠ []) := by
  obtain ⟨first, more, hdigits, hfirst, hrun⟩ :=
    Decimal.exists_significant (Decimal.digits_shortest_pos hmantissa exponent)
  have hone := hrun.digits first List.mem_cons_self
  have hothers : ∀ c ∈ more, c.isAsciiDigit = true :=
    fun c hc => hrun.digits c (List.mem_cons_of_mem first hc)
  unfold magnitudeText
  generalize (Decimal.shortest mantissa exponent).significant = significant at hdigits
  obtain ⟨ds, point⟩ := significant
  dsimp only at hdigits ⊢
  rw [hdigits]
  by_cases hfar : point ≤ -4 ∨ 16 < point
  · rw [if_pos hfar]
    have hmark := isExponent_of_power (point - 1)
    have hwhole : IsWhole [first] :=
      .run ⟨List.cons_ne_nil _ _, List.forall_mem_singleton.mpr hone⟩ hfirst
    have hfilled : (if point - 1 < 0 then ofString "e-" else ofString "e+") ++
        ofNatPadded 2 (point - 1).natAbs ≠ [] := by
      split <;> exact List.cons_ne_nil _ _
    cases more with
    | nil =>
        refine ⟨[first], [], _, ?_, hwhole, .none, hmark, .inr hfilled⟩
        simp [Text.concat]
    | cons second more =>
        refine ⟨[first], .char '.' :: second :: more, _, ?_, hwhole,
          .some ⟨List.cons_ne_nil _ _, hothers⟩, hmark, .inr hfilled⟩
        simp [Text.concat]
  rw [if_neg hfar]
  by_cases hbelow : point ≤ 0
  · rw [if_pos hbelow]
    refine ⟨"0", .char '.' :: (zeros point.natAbs ++ first :: more), [], ?_, .zero,
      .some ⟨by simp, ?_⟩, .none, .inl (List.cons_ne_nil _ _)⟩
    · simp [Text.concat, Text.ofString]
    · exact List.forall_mem_append.mpr ⟨fun _ => isAsciiDigit_of_mem_zeros, hrun.digits⟩
  rw [if_neg hbelow]
  by_cases hshort : (first :: more).length ≤ point.toNat
  · rw [if_pos hshort]
    refine ⟨first :: (more ++ zeros (point.toNat - (first :: more).length)), ".0", [], ?_,
      .run ⟨List.cons_ne_nil _ _, ?_⟩ hfirst, .some ⟨List.cons_ne_nil _ _, by decide⟩, .none,
      .inl (List.cons_ne_nil _ _)⟩
    · simp [Text.concat, Text.ofString]
    · rw [← List.cons_append]
      exact List.forall_mem_append.mpr ⟨hrun.digits, fun _ => isAsciiDigit_of_mem_zeros⟩
  · rw [if_neg hshort]
    obtain ⟨n, hn⟩ : ∃ n, point.toNat = n + 1 := Nat.exists_eq_add_one.mpr (by omega)
    rw [hn] at hshort ⊢
    have hleft : n < more.length := by
      simp only [List.length_cons] at hshort
      omega
    refine ⟨first :: more.take n, .char '.' :: more.drop n, [], ?_,
      .run ⟨List.cons_ne_nil _ _, ?_⟩ hfirst, .some ⟨by simpa using hleft, ?_⟩, .none,
      .inl (List.cons_ne_nil _ _)⟩
    · simp [Text.concat, Text.ofString]
    · exact List.forall_mem_cons.mpr ⟨hone, fun c hc => hothers c (List.mem_of_mem_take hc)⟩
    · exact fun c hc => hothers c (List.mem_of_mem_drop hc)

theorem exists_parts_of_text (negative : Bool) (mantissa : Nat) (exponent : Int) :
    ∃ whole fraction mark, text (.finite negative mantissa exponent) =
        Integer.signText negative ++ (whole ++ (fraction ++ mark)) ∧
      IsWhole whole ∧ IsFraction fraction ∧ IsExponent mark ∧ (fraction ≠ [] ∨ mark ≠ []) := by
  have hsign : (if negative then ("-" : Text) else "") = Integer.signText negative := by
    cases negative <;> rfl
  by_cases hzero : mantissa = 0
  · refine ⟨"0", ".0", [], ?_, .zero, .some ⟨List.cons_ne_nil _ _, by decide⟩, .none,
      .inl (List.cons_ne_nil _ _)⟩
    simp only [text, hsign, if_pos hzero]
    simp [Text.concat, Text.ofString]
  · obtain ⟨whole, fraction, mark, hmagnitude, hparts⟩ :=
      exists_parts_of_magnitudeText (Nat.pos_of_ne_zero hzero) exponent
    refine ⟨whole, fraction, mark, ?_, hparts⟩
    simp only [text, hsign, if_neg hzero, hmagnitude]
    simp [Text.concat]

end Binary64

/-- The number that is read where a number is written. -/
def Binary64.reread : Binary64 → Binary64
  | .finite negative mantissa exponent =>
    (read? (text (.finite negative mantissa exponent))).getD .nan
  | x => x

namespace Json

/-- A finite number is read as a floating-point number, up to the end of its numeral. -/
theorem readNumber_text
    (negative : Bool) (mantissa : Nat) (exponent : Int) {rest : Text}
    (hrest : EndsNumeral rest) :
    readNumber (Binary64.text (.finite negative mantissa exponent) ++ rest) =
      .ok (.float (Binary64.reread (.finite negative mantissa exponent)), rest) := by
  obtain ⟨whole, fraction, mark, htext, hwhole, hfraction, hmark, hfloat⟩ :=
    Binary64.exists_parts_of_text negative mantissa exponent
  have hfilled : (fraction.isEmpty && mark.isEmpty) = false := by
    simpa [or_iff_not_imp_left] using hfloat
  have hread := readNumber_of_parts negative hwhole hfraction hmark hrest
  rw [hfilled, if_neg Bool.false_ne_true] at hread
  rw [Binary64.reread, htext]
  simpa only [List.append_assoc] using hread

end Json
end ActorManifest
