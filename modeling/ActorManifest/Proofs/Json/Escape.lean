import ActorManifest.Json.Reader
import ActorManifest.Json.Writer
import ActorManifest.Proofs.Text.CodePoint
import ActorManifest.Proofs.Text.Digits

/-!
# Text between quotes

A character is written as itself, as a letter behind a backslash, as the four digits of its
number, or as those of the two halves of a pair.  Each of these is read as that character, and
the reader goes on behind it.  A lone surrogate is written with the digits of its number, so a
first half and a second half behind it are read as one character.  Else what is written between
quotes is read back.
-/

namespace ActorManifest

/-! ## Four hexadecimal digits -/

namespace Text

theorem hexValue?_digit_of_lt : ∀ n < 16, (digit n).hexValue? = some n := by
  decide

theorem ofNatHex_one {n : Nat} (hn : n < 16) : ofNatHex 1 n = [digit n] := by
  rw [ofNatHex, Nat.toDigits_of_lt_base hn]
  rfl

/-- One place more holds the last digit. -/
theorem ofNatHex_succ {width : Nat} (hwidth : 0 < width) (n : Nat) :
    ofNatHex (width + 1) n = ofNatHex width (n / 16) ++ [digit (n % 16)] := by
  by_cases hn : n < 16
  · have hdiv : n / 16 = 0 := Nat.div_eq_of_lt hn
    have hmod : n % 16 = n := Nat.mod_eq_of_lt hn
    have hzeros : zeros width = zeros (width - 1) ++ [.char '0'] := by
      rw [zeros, zeros, ← List.replicate_succ', Nat.sub_add_cancel hwidth]
    rw [ofNatHex, Nat.toDigits_of_lt_base hn, ofNatHex, hdiv, hmod]
    exact congrArg (· ++ [digit n]) hzeros
  · have hdigits : Nat.toDigits 16 n = Nat.toDigits 16 (n / 16) ++ [Nat.digitChar (n % 16)] :=
      Nat.toDigits_of_base_le (by decide) (by omega)
    rw [ofNatHex, hdigits, ofNatHex]
    simp [ofChars, digit]

end Text

namespace Json

open Text

/-- The digits of a unit are four and are read as the unit. -/
theorem exists_digits_of_unit {unit : Nat} (hunit : unit < 0x10000) :
    ∃ a b c d, unitEscape unit = .char '\\' :: .char 'u' :: [a, b, c, d] ∧
      unit? a b c d = some unit := by
  refine ⟨digit (unit / 16 / 16 / 16), digit (unit / 16 / 16 % 16), digit (unit / 16 % 16),
    digit (unit % 16), ?_, ?_⟩
  · have hfirst : unit / 16 / 16 / 16 < 16 := by omega
    rw [unitEscape, ofNatHex_succ (by decide), ofNatHex_succ (by decide),
      ofNatHex_succ (by decide), ofNatHex_one hfirst]
    rfl
  · have hfirst := hexValue?_digit_of_lt (unit / 16 / 16 / 16) (by omega)
    have hsecond := hexValue?_digit_of_lt (unit / 16 / 16 % 16) (by omega)
    have hthird := hexValue?_digit_of_lt (unit / 16 % 16) (by omega)
    have hfourth := hexValue?_digit_of_lt (unit % 16) (by omega)
    simp only [unit?, hfirst, hsecond, hthird, hfourth, Option.pure_def, Option.bind_eq_bind,
      Option.bind_some, Option.some.injEq]
    omega

/-! ## Units and characters -/

/-- No character is a surrogate. -/
theorem toNat_lt_or_lt (c : Char) : c.toNat < 0xD800 ∨ 0xDFFF < c.toNat ∧ c.toNat < 0x110000 :=
  c.valid

/-- A unit that is a character takes nothing with it. -/
theorem joinUnits_toNat (c : Char) (rest : Text) :
    joinUnits c.toNat rest = .ok ([.char c], rest) := by
  have hsurrogate := toNat_lt_or_lt c
  unfold joinUnits
  rw [if_neg (by omega), CodePoint.ofNat?_toNat_char]
  rfl

/-- The first half of a pair takes the second half with it. -/
theorem joinUnits_pair {c : Char} (hc : 0x10000 ≤ c.toNat) {rest : Text} (hrest : rest ≠ []) :
    joinUnits (0xD800 + (c.toNat - 0x10000) / 0x400)
        (unitEscape (0xDC00 + (c.toNat - 0x10000) % 0x400) ++ rest) =
      .ok ([.char c], rest) := by
  have hsurrogate := toNat_lt_or_lt c
  have hlow : 0xDC00 + (c.toNat - 0x10000) % 0x400 < 0x10000 := by omega
  obtain ⟨x, y, z, w, hescape, hunit⟩ := exists_digits_of_unit hlow
  obtain ⟨next, more, rfl⟩ := List.exists_cons_of_ne_nil hrest
  have hjoined : 0x10000 + (0xD800 + (c.toNat - 0x10000) / 0x400 - 0xD800) * 0x400 +
      (0xDC00 + (c.toNat - 0x10000) % 0x400 - 0xDC00) = c.toNat := by
    omega
  unfold joinUnits
  rw [if_pos (by omega), hescape]
  simp only [List.cons_append, List.nil_append, hunit]
  rw [if_pos (by omega), hjoined, CodePoint.ofNat?_toNat_char]
  rfl

/-! ## Written forms of a character -/

/-- The characters that are written with a letter, each with its letter. -/
def letters : List (Char × Char) :=
  [('"', '"'), ('\\', '\\'), ('\n', 'n'), ('\r', 'r'), ('\t', 't'), ('\x0c', 'f'), ('\x08', 'b')]

theorem escaped_of_mem_letters :
    ∀ entry ∈ letters, escaped (.char entry.1) = [.char '\\', .char entry.2] ∧
      letterEscape? (.char entry.2) = some (.char entry.1) := by
  decide

theorem escaped_of_not_mem_letters {c : Char} (hc : ∀ entry ∈ letters, c ≠ entry.1) :
    escaped (.char c) =
      if 0x20 ≤ c.toNat ∧ c.toNat ≤ 0x7E then [.char c]
      else if c.toNat < 0x10000 then unitEscape c.toNat
      else unitEscape (0xD800 + (c.toNat - 0x10000) / 0x400) ++
        unitEscape (0xDC00 + (c.toNat - 0x10000) % 0x400) := by
  have hne : ∀ entry ∈ letters, c.toNat ≠ entry.1.toNat :=
    fun entry hentry heq => hc entry hentry (Char.toNat_inj.mp heq)
  simp only [letters, List.forall_mem_cons] at hne
  obtain ⟨hquote, hbackslash, hbreak, hreturn, htab, hfeed, hback, -⟩ := hne
  unfold escaped
  exact (if_neg hquote).trans <| (if_neg hbackslash).trans <| (if_neg hbreak).trans <|
    (if_neg hreturn).trans <| (if_neg htab).trans <| (if_neg hfeed).trans (if_neg hback)

/-! ## Surrogates -/

/-- The text in which a first half of a pair and a second half behind it are one character. -/
def joined : Text → Text
  | .surrogate high :: .surrogate low :: rest =>
    if high.val < 0x400 ∧ 0x400 ≤ low.val then
      (CodePoint.ofNat? (0x10000 + high.val * 0x400 + (low.val - 0x400))).toList ++ joined rest
    else .surrogate high :: joined (.surrogate low :: rest)
  | c :: rest => c :: joined rest
  | [] => []

theorem joined_eq_self {t : Text} (ht : t.hasSurrogate = false) : joined t = t := by
  induction t with
  | nil => rfl
  | cons c t ih =>
      rw [hasSurrogate, List.any_cons, Bool.or_eq_false_iff] at ht
      cases c with
      | surrogate offset => cases ht.1
      | char c => rw [joined, ih ht.2]; exact nofun

theorem escaped_surrogate (offset : Fin 2048) :
    escaped (.surrogate offset) = unitEscape (0xD800 + offset.val) := by
  have hlow : 0xD800 ≤ (CodePoint.surrogate offset).toNat := Nat.le_add_right _ _
  have hhigh : (CodePoint.surrogate offset).toNat < 0x10000 := by
    have hoffset := offset.isLt
    simp only [CodePoint.toNat]
    omega
  change _ = unitEscape (CodePoint.surrogate offset).toNat
  unfold escaped
  dsimp only
  generalize (CodePoint.surrogate offset).toNat = n at hlow hhigh
  repeat rw [if_neg (by omega)]
  rw [if_pos hhigh]

/-- Two halves of a pair are written like the character that they make up. -/
theorem exists_escaped_pair
    {high low : Fin 2048} (hhigh : high.val < 0x400) (hlow : 0x400 ≤ low.val) :
    ∃ c : Char, CodePoint.ofNat? (0x10000 + high.val * 0x400 + (low.val - 0x400)) = some (.char c) ∧
      escaped (.surrogate high) ++ escaped (.surrogate low) = escaped (.char c) := by
  have hlast := low.isLt
  have hvalid : (0x10000 + high.val * 0x400 + (low.val - 0x400)).isValidChar := by
    simp only [Nat.isValidChar]
    omega
  obtain ⟨c, hc, hnumber⟩ : ∃ c : Char,
      CodePoint.ofNat? (0x10000 + high.val * 0x400 + (low.val - 0x400)) = some (.char c) ∧
        c.toNat = 0x10000 + high.val * 0x400 + (low.val - 0x400) :=
    ⟨Char.ofNatAux _ hvalid, by rw [CodePoint.ofNat?, dif_pos hvalid], rfl⟩
  have hletters : ∀ entry ∈ letters, c ≠ entry.1 := by
    have hsmall : ∀ entry ∈ letters, entry.1.toNat < 0x10000 := by
      decide
    rintro entry hentry rfl
    have hentry := hsmall entry hentry
    omega
  have hfirst : (c.toNat - 0x10000) / 0x400 = high.val := by
    omega
  have hsecond : 0xDC00 + (c.toNat - 0x10000) % 0x400 = 0xD800 + low.val := by
    omega
  refine ⟨c, hc, ?_⟩
  rw [escaped_surrogate, escaped_surrogate, escaped_of_not_mem_letters hletters,
    if_neg (by omega), if_neg (by omega), hfirst, hsecond]

/-- What is written for a code point is a letter behind a backslash, another sign, or begins with
the escape of a unit. -/
theorem escaped_cases (c : CodePoint) :
    (∃ letter, letter ≠ .char 'u' ∧ escaped c = [.char '\\', letter]) ∨
    (∃ sign, sign ≠ .char '\\' ∧ escaped c = [sign]) ∨
    ∃ unit tail, unit < 0x10000 ∧ (c.isLowSurrogate = false → unit < 0xDC00 ∨ 0xE000 ≤ unit) ∧
      escaped c = unitEscape unit ++ tail := by
  cases c with
  | surrogate offset =>
      have hoffset := offset.isLt
      refine .inr (.inr ⟨0xD800 + offset.val, [], by omega, ?_, ?_⟩)
      · intro hlow
        have hlow : ¬0x400 ≤ offset.val := of_decide_eq_false hlow
        omega
      · rw [escaped_surrogate, List.append_nil]
  | char c =>
      have hsurrogate := toNat_lt_or_lt c
      by_cases hletter : ∃ entry ∈ letters, c = entry.1
      · obtain ⟨entry, hentry, rfl⟩ := hletter
        have hother : ∀ entry ∈ letters, CodePoint.char entry.2 ≠ .char 'u' := by
          decide
        exact .inl ⟨_, hother entry hentry, (escaped_of_mem_letters entry hentry).1⟩
      · have hother : ∀ entry ∈ letters, c ≠ entry.1 :=
          fun entry hentry heq => hletter ⟨entry, hentry, heq⟩
        have hbackslash : c ≠ '\\' := hother ('\\', '\\') (by decide)
        rw [escaped_of_not_mem_letters hother]
        by_cases hplain : 0x20 ≤ c.toNat ∧ c.toNat ≤ 0x7E
        · rw [if_pos hplain]
          exact .inr (.inl ⟨_, fun heq => hbackslash (CodePoint.char.inj heq), rfl⟩)
        rw [if_neg hplain]
        by_cases hbasic : c.toNat < 0x10000
        · rw [if_pos hbasic]
          exact .inr (.inr ⟨c.toNat, [], hbasic, fun _ => by omega, (List.append_nil _).symm⟩)
        · rw [if_neg hbasic]
          exact .inr (.inr ⟨_, _, by omega, fun _ => by omega, rfl⟩)

/-- A half of a pair stands alone unless the other half follows. -/
theorem joinUnits_surrogate
    {offset : Fin 2048} {t : Text}
    (halone : ∀ c ∈ t.head?, ¬(offset.val < 0x400 ∧ c.isLowSurrogate = true)) (rest : Text) :
    joinUnits (0xD800 + offset.val) (t.flatMap escaped ++ .char '"' :: rest) =
      .ok ([.surrogate offset], t.flatMap escaped ++ .char '"' :: rest) := by
  have hnumber : CodePoint.ofNat? (0xD800 + offset.val) = some (.surrogate offset) :=
    CodePoint.ofNat?_toNat (.surrogate offset)
  unfold joinUnits
  by_cases hhigh : offset.val < 0x400
  · rw [if_pos (by omega), hnumber]
    cases t with
    | nil => rfl
    | cons c t =>
        have hlow : c.isLowSurrogate = false := by
          simpa [hhigh] using halone c rfl
        rw [List.flatMap_cons, List.append_assoc]
        rcases escaped_cases c with
          ⟨letter, hletter, hescaped⟩ | ⟨sign, hsign, hescaped⟩ |
            ⟨unit, tail, hunit, hapart, hescaped⟩
        · rw [hescaped]
          split
          · rename_i heq
            exact absurd (List.cons.inj (List.cons.inj heq).2).1 hletter
          · rfl
        · rw [hescaped]
          split
          · rename_i heq
            exact absurd (List.cons.inj heq).1 hsign
          · rfl
        · obtain ⟨x, y, z, w, hescape, hdigits⟩ := exists_digits_of_unit hunit
          obtain ⟨next, after, hafter⟩ : ∃ next after,
              tail ++ (t.flatMap escaped ++ .char '"' :: rest) = next :: after :=
            List.exists_cons_of_ne_nil (by simp)
          have hapart := hapart hlow
          rw [hescaped, List.append_assoc, hafter, hescape]
          simp only [List.cons_append, List.nil_append, hdigits]
          rw [if_neg (by omega)]
          rfl
  · rw [if_neg (by omega), hnumber]
    rfl

/-! ## Reading to the closing quote -/

section ReadText

variable (opening : Text) (fuel : Nat)

/-- The text that is read when some of its code points were read already. -/
def behind (points : List CodePoint) : Except Stop (Text × Text) → Except Stop (Text × Text) :=
  Except.map fun (content, rest) => (points ++ content, rest)

theorem readText_letter
    {letter point : CodePoint} (hletter : letterEscape? letter = some point) (rest : Text) :
    readText opening (fuel + 1) (.char '\\' :: letter :: rest) =
      behind [point] (readText opening fuel rest) := by
  have hunit : letter ≠ .char 'u' := by
    rintro rfl
    cases hletter
  rw [readText]
  · simp only [hletter]
    cases readText opening fuel rest <;> rfl
  · exact hunit

theorem readText_plain
    {c : Char} (hquote : c ≠ '"') (hbackslash : c ≠ '\\') (hc : 0x20 ≤ c.toNat) (rest : Text) :
    readText opening (fuel + 1) (.char c :: rest) =
      behind [.char c] (readText opening fuel rest) := by
  have hcontrol : ¬(CodePoint.char c).toNat < 0x20 := Nat.not_lt.mpr hc
  have hescape : CodePoint.char c ≠ .char '\\' := fun heq => hbackslash (CodePoint.char.inj heq)
  rw [readText]
  · rw [if_neg hcontrol]
    cases readText opening fuel rest <;> rfl
  -- The character stands neither for the end nor for any of the escapes.
  · exact fun heq => hquote (CodePoint.char.inj heq)
  · exact fun heq _ => hescape heq
  · exact fun _ heq _ => hescape heq
  · exact fun _ _ heq _ => hescape heq

theorem readText_unitEscape
    {unit : Nat} (hunit : unit < 0x10000) {points : List CodePoint} {rest after : Text}
    (hrest : rest ≠ []) (hjoin : joinUnits unit rest = .ok (points, after)) :
    readText opening (fuel + 1) (unitEscape unit ++ rest) =
      behind points (readText opening fuel after) := by
  obtain ⟨a, b, c, d, hescape, hdigits⟩ := exists_digits_of_unit hunit
  obtain ⟨next, more, rfl⟩ := List.exists_cons_of_ne_nil hrest
  rw [hescape]
  simp only [List.cons_append, List.nil_append, readText, hdigits, hjoin, bind, Except.bind]
  cases readText opening fuel after <;> rfl

/-- A character is read from its written form. -/
theorem readText_escaped (c : Char) {rest : Text} (hrest : rest ≠ []) :
    readText opening (fuel + 1) (escaped (.char c) ++ rest) =
      behind [.char c] (readText opening fuel rest) := by
  by_cases hletter : ∃ entry ∈ letters, c = entry.1
  · obtain ⟨entry, hentry, rfl⟩ := hletter
    obtain ⟨hescaped, hletter⟩ := escaped_of_mem_letters entry hentry
    rw [hescaped]
    exact readText_letter opening fuel hletter rest
  · have hother : ∀ entry ∈ letters, c ≠ entry.1 :=
      fun entry hentry heq => hletter ⟨entry, hentry, heq⟩
    rw [escaped_of_not_mem_letters hother]
    by_cases hplain : 0x20 ≤ c.toNat ∧ c.toNat ≤ 0x7E
    · rw [if_pos hplain]
      exact readText_plain opening fuel (hother ('"', '"') (by decide))
        (hother ('\\', '\\') (by decide)) hplain.1 rest
    rw [if_neg hplain]
    by_cases hbasic : c.toNat < 0x10000
    · rw [if_pos hbasic]
      exact readText_unitEscape opening fuel hbasic hrest (joinUnits_toNat c rest)
    · have hsurrogate := toNat_lt_or_lt c
      rw [if_neg hbasic, List.append_assoc]
      exact readText_unitEscape opening fuel (by omega) (by simp [hrest])
        (joinUnits_pair (by omega) hrest)

theorem readText_surrogate
    {offset : Fin 2048} {t : Text}
    (halone : ∀ c ∈ t.head?, ¬(offset.val < 0x400 ∧ c.isLowSurrogate = true)) (rest : Text) :
    readText opening (fuel + 1)
        ((CodePoint.surrogate offset :: t).flatMap escaped ++ .char '"' :: rest) =
      behind [.surrogate offset]
        (readText opening fuel (t.flatMap escaped ++ .char '"' :: rest)) := by
  rw [List.flatMap_cons, List.append_assoc, escaped_surrogate]
  exact readText_unitEscape opening fuel (by omega) (by simp) (joinUnits_surrogate halone rest)

/-- A text is read up to the quote that closes it, with its halves joined. -/
theorem readText_flatMap_escaped
    {fuel : Nat} {t : Text} (hfuel : t.length < fuel) (rest : Text) :
    readText opening fuel (t.flatMap escaped ++ .char '"' :: rest) = .ok (joined t, rest) := by
  induction t using joined.induct generalizing fuel with
  | case1 high low t hpair ih =>
      obtain ⟨c, hc, hescaped⟩ := exists_escaped_pair hpair.1 hpair.2
      obtain ⟨fuel, rfl⟩ : ∃ less, fuel = less + 1 := Nat.exists_eq_add_one.mpr (by omega)
      simp only [List.length_cons] at hfuel
      rw [List.flatMap_cons, List.flatMap_cons, ← List.append_assoc, hescaped, List.append_assoc,
        readText_escaped opening fuel c (by simp), ih (by omega), joined, if_pos hpair, hc]
      rfl
  | case2 high low t hpair ih =>
      obtain ⟨fuel, rfl⟩ : ∃ less, fuel = less + 1 := Nat.exists_eq_add_one.mpr (by omega)
      have halone : ∀ c ∈ (CodePoint.surrogate low :: t).head?,
          ¬(high.val < 0x400 ∧ c.isLowSurrogate = true) := by
        simpa [CodePoint.isLowSurrogate] using hpair
      rw [readText_surrogate opening fuel halone, ih (Nat.lt_of_succ_lt_succ hfuel), joined,
        if_neg hpair]
      rfl
  | case3 c t hother ih =>
      obtain ⟨fuel, rfl⟩ : ∃ less, fuel = less + 1 := Nat.exists_eq_add_one.mpr (by omega)
      have hrest := ih (Nat.lt_of_succ_lt_succ hfuel)
      rw [joined]
      · cases c with
        | char c =>
            rw [List.flatMap_cons, List.append_assoc,
              readText_escaped opening fuel c (by simp), hrest]
            rfl
        | surrogate offset =>
            have halone : ∀ c ∈ t.head?, ¬(offset.val < 0x400 ∧ c.isLowSurrogate = true) := by
              intro c hc hpair
              obtain ⟨more, rfl⟩ := List.head?_eq_some_iff.mp hc
              cases c with
              | char c => cases hpair.2
              | surrogate low => exact hother offset low more rfl rfl
            rw [readText_surrogate opening fuel halone, hrest]
            rfl
      · exact hother
  | case4 =>
      obtain ⟨fuel, rfl⟩ : ∃ less, fuel = less + 1 := Nat.exists_eq_add_one.mpr (by omega)
      simp [readText, joined]

end ReadText

/-! ## Literals -/

theorem unitEscape_ne_nil (unit : Nat) : unitEscape unit ≠ [] := by
  simp [unitEscape, Text.concat, Text.ofString]

theorem escaped_ne_nil (c : CodePoint) : escaped c ≠ [] := by
  rcases escaped_cases c with ⟨letter, -, heq⟩ | ⟨sign, -, heq⟩ | ⟨unit, tail, -, -, heq⟩
  · simp [heq]
  · simp [heq]
  · simp [heq, unitEscape_ne_nil]

theorem length_le_length_flatMap_escaped (t : Text) : t.length ≤ (t.flatMap escaped).length := by
  induction t with
  | nil => simp
  | cons c t ih =>
      have hc := List.length_pos_iff.mpr (escaped_ne_nil c)
      rw [List.flatMap_cons, List.length_cons, List.length_append]
      omega

theorem textLiteral_eq (t : Text) :
    textLiteral t = .char '"' :: (t.flatMap escaped ++ [.char '"']) := by
  simp [textLiteral, Text.concat, Text.ofString]

/-- A literal is read behind its first quote with as much fuel as its reader has. -/
theorem readText_textLiteral
    (opening t rest : Text) :
    readText opening ((t.flatMap escaped ++ .char '"' :: rest).length + 1)
      (t.flatMap escaped ++ .char '"' :: rest) = .ok (joined t, rest) := by
  have hlength := length_le_length_flatMap_escaped t
  refine readText_flatMap_escaped opening ?_ rest
  rw [List.length_append]
  omega

end Json
end ActorManifest
