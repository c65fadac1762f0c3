import ActorManifest.Document.Scalar
import ActorManifest.Json.Reader
import ActorManifest.Proofs.Text.Digits
import Mathlib.Algebra.Group.Int.Defs
import Mathlib.Data.List.TakeDrop

/-!
# Numerals of whole numbers

A whole number is written with its decimal digits and read back from them, provided that they
are not too many.
-/

namespace ActorManifest

/-! ## The digits of a number -/

namespace Text

/-- A number is written with digits that make it up. -/
theorem exists_digits_of_ofNat (n : Nat) :
    ∃ ds, (∀ d ∈ ds, d < 10) ∧ ofNat n = ds.map digit ∧ Integer.ofDigits 10 ds = n := by
  induction n using Nat.strongRecOn with
  | ind n ih =>
      by_cases hn : n < 10
      · exact ⟨[n], by simpa using hn, ofNat_of_lt hn, by simp [Integer.ofDigits]⟩
      · obtain ⟨ds, hds, hdigits, hvalue⟩ := ih (n / 10) (by omega)
        have hlast : n % 10 < 10 := Nat.mod_lt n (by decide)
        refine ⟨ds ++ [n % 10], ?_, ?_, ?_⟩
        · simpa [or_imp, forall_and] using ⟨hds, hlast⟩
        · rw [ofNat_of_le (by omega), hdigits, List.map_append, List.map_singleton]
        · rw [Integer.ofDigits, List.foldl_append]
          simp only [Integer.ofDigits] at hvalue
          simp only [hvalue, List.foldl_cons, List.foldl_nil]
          omega

theorem exists_digit_of_mem_ofNat {n : Nat} {c : CodePoint} (hc : c ∈ ofNat n) :
    ∃ d < 10, c = digit d := by
  obtain ⟨ds, hds, hdigits, -⟩ := exists_digits_of_ofNat n
  obtain ⟨d, hd, rfl⟩ := List.mem_map.mp (hdigits ▸ hc)
  exact ⟨d, hds d hd, rfl⟩

/-- A numeral begins with a digit, and with none but zero begins the numeral of zero. -/
theorem exists_ofNat_eq_cons (n : Nat) :
    ∃ d rest, d < 10 ∧ (0 < n → 0 < d) ∧ ofNat n = digit d :: rest := by
  induction n using Nat.strongRecOn with
  | ind n ih =>
      by_cases hn : n < 10
      · exact ⟨n, [], hn, id, ofNat_of_lt hn⟩
      · obtain ⟨d, rest, hd, hpositive, hdigits⟩ := ih (n / 10) (by omega)
        refine ⟨d, rest ++ [digit (n % 10)], hd, fun _ => hpositive (by omega), ?_⟩
        rw [ofNat_of_le (by omega), hdigits]
        rfl

theorem length_ofNat_le {n width : Nat} (hwidth : 0 < width) (hn : n < 10 ^ width) :
    (ofNat n).length ≤ width := by
  rw [ofNat, ofChars, List.length_map]
  exact (Nat.length_toDigits_le_iff (by decide) hwidth).mpr hn

theorem trimWhile_eq_self
    {p : CodePoint → Bool} {t : Text} (ht : ∀ c ∈ t, p c = false) : trimWhile p t = t := by
  have hdrop : ∀ t : Text, (∀ c ∈ t, p c = false) → t.dropWhile p = t := by
    intro t ht
    cases t with
    | nil => rfl
    | cons c rest => rw [List.dropWhile_cons_of_neg (by simp [ht c List.mem_cons_self])]
  rw [trimWhile, hdrop t ht, dropEndWhile, hdrop t.reverse (by simpa using ht),
    List.reverse_reverse]

end Text

/-! ## Numbers that can be written -/

theorem isWritable_of_lt_pow {n : Int} {width : Nat} (hwidth : width ≤ Integer.maxDigits)
    (hn : n.natAbs < 10 ^ width) : isWritable n = true := by
  unfold isWritable
  unfold Integer.maxDigits at hwidth
  -- The limit is made a variable, so that its power is not computed.
  generalize 4300 = limit at hwidth ⊢
  exact decide_eq_true (Nat.lt_of_lt_of_le hn (Nat.pow_le_pow_right (by decide) hwidth))

theorem isWritable_pow : isWritable (10 ^ 4300) = false := by
  unfold isWritable
  generalize 4300 = limit
  rw [Int.natAbs_pow]
  exact decide_eq_false (Nat.lt_irrefl _)

/-! ## Reading digits as a number -/

namespace Integer

open Text

theorem isBlank_digit : ∀ d < 10, Unicode.isBlank (digit d) = false := by
  decide

theorem westernDigits_digit : ∀ d < 10, westernDigits [digit d] = [digit d] := by
  decide

theorem digitValue?_digit : ∀ d < 10, digitValue? (digit d) = some d := by
  decide

/-- Digits between which nothing stands are read one by one. -/
theorem digits?_map_digit {ds : List Nat} (hds : ∀ d ∈ ds, d < 10) :
    digits? 10 (ds.map digit) = some ds := by
  induction ds with
  | nil => rfl
  | cons d rest ih =>
      have hd := hds d List.mem_cons_self
      have hrest := ih fun e he => hds e (List.mem_cons_of_mem d he)
      have hunderscore : digit d ≠ .char '_' := digit_ne hd (by decide)
      rw [List.map_cons, digits?]
      · simp [digitValue?_digit d hd, hd, hrest]
      · exact fun heq _ => hunderscore heq
      · exact fun _ heq _ => hunderscore heq
      · exact hunderscore

theorem dropMark_ten (t : Text) : dropMark 10 t = t := by
  unfold dropMark
  split
  · rename_i hmark
    cases hmark
  · rfl

theorem readMagnitude?_map_digit {ds : List Nat} (hds : ∀ d ∈ ds, d < 10) (hne : ds ≠ []) :
    readMagnitude? 10 (ds.map digit) =
      if maxDigits < ds.length then none else some (ofDigits 10 ds) := by
  obtain ⟨d, rest, rfl⟩ := List.exists_cons_of_ne_nil hne
  unfold readMagnitude?
  rw [dropMark_ten]
  split
  · rename_i heq
    cases heq
  · rename_i heq
    exact absurd (List.cons.inj heq).1 (digit_ne (hds d List.mem_cons_self) (by decide))
  · rw [digits?_map_digit hds]
    simp [baseMark?]

/-- The sign of a numeral. -/
def signText (negative : Bool) : Text :=
  if negative then "-" else []

theorem westernDigits_numeral {ds : List Nat} (hds : ∀ d ∈ ds, d < 10) (negative : Bool) :
    westernDigits (signText negative ++ ds.map digit) = signText negative ++ ds.map digit := by
  have hdigits : westernDigits (ds.map digit) = ds.map digit := by
    refine (List.map_congr_left ?_).trans (List.map_id _)
    intro c hc
    obtain ⟨d, hd, rfl⟩ := List.mem_map.mp hc
    exact (List.cons.inj (westernDigits_digit d (hds d hd))).1
  have hsign : westernDigits (signText negative) = signText negative := by
    revert negative
    decide
  rw [westernDigits, List.map_append]
  exact congr (congrArg _ hsign) hdigits

theorem trimWhile_numeral {ds : List Nat} (hds : ∀ d ∈ ds, d < 10) (negative : Bool) :
    trimWhile Unicode.isBlank (signText negative ++ ds.map digit) =
      signText negative ++ ds.map digit := by
  have hsign : ∀ negative, ∀ c ∈ signText negative, Unicode.isBlank c = false := by decide
  refine trimWhile_eq_self ?_
  intro c hc
  rcases List.mem_append.mp hc with hc | hc
  · exact hsign negative c hc
  · obtain ⟨d, hd, rfl⟩ := List.mem_map.mp hc
    exact isBlank_digit d (hds d hd)

/-- A sign and digits are read as a whole number if the digits are not too many. -/
theorem read?_numeral
    {ds : List Nat} (hds : ∀ d ∈ ds, d < 10) (hne : ds ≠ []) (negative : Bool) :
    read? 10 (signText negative ++ ds.map digit) =
      if maxDigits < ds.length then none
      else some (if negative then -(ofDigits 10 ds : Int) else ofDigits 10 ds) := by
  have hmagnitude := readMagnitude?_map_digit hds hne
  obtain ⟨d, rest, rfl⟩ := List.exists_cons_of_ne_nil hne
  have hd := hds d List.mem_cons_self
  rw [read?, trimWhile_numeral hds, westernDigits_numeral hds]
  cases negative with
  | true =>
      change Option.map _
        (readMagnitude? 10 ((d :: rest).map digit) >>= fun n => pure (n : Int)) = _
      rw [hmagnitude]
      split <;> rfl
  | false =>
      simp only [signText]
      split
      · rename_i heq
        exact absurd (List.cons.inj heq).1 (digit_ne hd (by decide))
      · rename_i heq
        exact absurd (List.cons.inj heq).1 (digit_ne hd (by decide))
      · simp only [Bool.false_eq_true, if_false, List.nil_append, hmagnitude]
        split <;> rfl

theorem length_ofNat_le_of_isWritable {n : Int} (hn : isWritable n = true) :
    (ofNat n.natAbs).length ≤ maxDigits := by
  unfold isWritable at hn
  unfold maxDigits
  -- The width is made a variable, so that its power is not computed.
  generalize hwidth : 4300 = width at hn ⊢
  exact length_ofNat_le (by omega) (of_decide_eq_true hn)

/-- A whole number that is short enough to be written is read back. -/
theorem read?_ofInt {n : Int} (hn : isWritable n = true) : read? 10 (ofInt n) = some n := by
  obtain ⟨ds, hds, hdigits, hvalue⟩ := exists_digits_of_ofNat n.natAbs
  have hlength : ¬maxDigits < ds.length := by
    have hle := length_ofNat_le_of_isWritable hn
    rw [hdigits, List.length_map] at hle
    exact Nat.not_lt.mpr hle
  have hne : ds ≠ [] := by
    rintro rfl
    obtain ⟨d, rest, -, -, hcons⟩ := exists_ofNat_eq_cons n.natAbs
    rw [hdigits] at hcons
    cases hcons
  have hread := read?_numeral hds hne
  simp only [if_neg hlength, hvalue, ← hdigits] at hread
  cases n with
  | ofNat n => exact hread false
  | negSucc n => exact hread true

end Integer

end ActorManifest
