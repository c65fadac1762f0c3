import ActorManifest.Proofs.Reason.Letters

/-!
# Spellings of a reason

A list of words is spelled with separators between the words, or with capitals where words begin.
A word of at least two small letters ends in a small letter whatever its first letter is, so the
next capital begins a word, and all spellings have the same canonical form.
-/

namespace ActorManifest
namespace Reason

open CodePoint Text Unicode

/-! ## Spellings of a list of words -/

/-- A word of at least two small ASCII letters. -/
def IsPlainWord (w : List Char) : Prop :=
  2 ≤ w.length ∧ ∀ a ∈ w, a.isLower = true

theorem IsPlainWord.exists_cons {w : List Char} (hw : IsPlainWord w) :
    ∃ a rest, w = a :: rest ∧ a.isLower = true ∧ rest ≠ [] ∧ ∀ d ∈ rest, d.isLower = true := by
  obtain ⟨hlength, hlower⟩ := hw
  obtain ⟨a, rest, rfl⟩ := List.exists_cons_of_length_pos (by omega : 0 < w.length)
  rw [List.forall_mem_cons] at hlower
  have hfilled : rest ≠ [] := by
    rintro rfl
    simp at hlength
  exact ⟨a, rest, rfl, hlower.1, hfilled, hlower.2⟩

/-- The word with its first letter in upper case. -/
def raised : List Char → Text
  | [] => []
  | a :: rest => .char a.toUpper :: ofChars rest

/-- The words with separators between them and any separators behind the last of them. -/
inductive IsSpaced : List (List Char) → Text → Prop
  | last (w : List Char) (gap : Text) (hgap : ∀ c ∈ gap, isSeparator c = true) :
      IsSpaced [w] (ofChars w ++ gap)
  | cons (w : List Char) (gap : Text) {ws : List (List Char)} {t : Text} (hfilled : gap ≠ [])
      (hgap : ∀ c ∈ gap, isSeparator c = true) (ht : IsSpaced ws t) :
      IsSpaced (w :: ws) (ofChars w ++ gap ++ t)

/-- The ways to spell a list of words. -/
inductive Spells : List (List Char) → Text → Prop
  | spaced (gap : Text) {ws : List (List Char)} {t : Text} (hgap : ∀ c ∈ gap, isSeparator c = true)
      (ht : IsSpaced ws t) : Spells ws (gap ++ t)
  | camel (w : List Char) (more : List (List Char)) :
      Spells (w :: more) (ofChars w ++ more.flatMap raised)
  | pascal (ws : List (List Char)) : Spells ws (ws.flatMap raised)

/-! ## Words that end in a small letter -/

variable {p : CodePoint} {w : List Char} {ws : List (List Char)} {s t y : Text}

/-- A small letter goes on with the word of the letter in front of it. -/
theorem isBoundary_of_isLittle {d : CodePoint} (hp : isDigit p = false) (hd : IsLittle d)
    (after : Option CodePoint) : isBoundary p d after = false := by
  simp [isBoundary, hp, hd.digit, hd.upper]

theorem splitWords_append (hp : isDigit p = false) (hfilled : s ≠ [])
    (hs : ∀ d ∈ s, IsLittle d) (ht : ∀ q ∈ t.head?, IsCapital q) :
    splitWords (p :: (s ++ t)) = (p :: s) :: splitWords t := by
  induction s generalizing p with
  | nil => exact absurd rfl hfilled
  | cons d s ih =>
      rw [List.forall_mem_cons] at hs
      have hfound : splitWords (d :: (s ++ t)) = (d :: s) :: splitWords t := by
        cases s with
        | cons e s => exact ih hs.1.digit (List.cons_ne_nil e s) hs.2
        | nil =>
            cases t with
            | nil => rfl
            | cons q t =>
                obtain ⟨word, more, hmore⟩ := exists_splitWords_cons q t
                have hq := ht q rfl
                have hboundary : isBoundary d q t.head? = true := by
                  simp [isBoundary, hs.1.lower, hq.upper]
                rw [List.nil_append, splitWords_cons_cons hmore, if_pos hboundary, hmore]
      rw [List.cons_append, splitWords_cons_cons hfound,
        isBoundary_of_isLittle hp hs.1, if_neg Bool.false_ne_true]

/-- What the splitter makes of a word in one of its spellings. -/
structure IsFormOf (w : List Char) (y : Text) : Prop where
  plain : ∀ c ∈ y, isSeparator c = false
  split : ∀ t : Text, (∀ q ∈ t.head?, IsCapital q) → splitWords (y ++ t) = y :: splitWords t
  capitalized : capitalize y = raised w

theorem isSeparator_of_isAlpha {a : Char} (ha : a.isAlpha = true) :
    isSeparator (.char a) = false := by
  have hsign : (CodePoint.char a).isAsciiAlphanum = true := by
    simp [isAsciiAlphanum, isAsciiLetter, ha]
  rw [isSeparator_of_lt (lt_of_isAsciiAlphanum hsign), hsign]
  rfl

theorem isFormOf_cons
    {a b : Char} {rest : List Char} (hb : b.isAlpha = true) (hcase : b.toUpper = a.toUpper)
    (hfilled : rest ≠ []) (hrest : ∀ d ∈ rest, d.isLower = true) :
    IsFormOf (a :: rest) (.char b :: ofChars rest) := by
  have halpha : ∀ d ∈ b :: rest, d.isAlpha = true := by
    rw [List.forall_mem_cons]
    exact ⟨hb, fun d hd => by simp [Char.isAlpha, hrest d hd]⟩
  have hlt : ∀ d ∈ b :: rest, (CodePoint.char d).toNat < 128 := fun d hd =>
    lt_of_isAlphanum (by simp [Char.isAlphanum, halpha d hd])
  refine ⟨?_, fun t ht => ?_, ?_⟩
  · change ∀ c ∈ (b :: rest).map CodePoint.char, isSeparator c = false
    rw [List.forall_mem_map]
    exact fun d hd => isSeparator_of_isAlpha (halpha d hd)
  · have hdigit : isDigit (.char b) = false := by
      rw [isDigit_of_isAsciiAlphanum (by simp [isAsciiAlphanum, isAsciiLetter, hb])]
      simp [isAsciiLetter, hb]
    refine splitWords_append hdigit (by simpa [ofChars] using hfilled) ?_ ht
    rw [ofChars, List.forall_mem_map]
    exact fun d hd => isLittle_of_isLower (hrest d hd)
  · rw [List.forall_mem_cons] at hlt
    rw [ofChars, capitalize_of_lt hlt.1 (by rw [List.forall_mem_map]; exact hlt.2), raised,
      mapChar, hcase, ofChars, List.map_map]
    refine congrArg _ (List.map_congr_left fun d hd => ?_)
    have hsmall : d.toLower = d :=
      Char.toLower_eq_of_not_isUpper (Char.not_isUpper_of_isLower (hrest d hd))
    rw [Function.comp_apply, mapChar, hsmall]

/-- A word as it stands. -/
theorem isFormOf_ofChars (hw : IsPlainWord w) : IsFormOf w (ofChars w) := by
  obtain ⟨a, rest, rfl, ha, hfilled, hrest⟩ := hw.exists_cons
  exact isFormOf_cons (by simp [Char.isAlpha, ha]) rfl hfilled hrest

/-- A word with its first letter in upper case. -/
theorem isFormOf_raised (hw : IsPlainWord w) : IsFormOf w (raised w) := by
  obtain ⟨a, rest, rfl, ha, hfilled, hrest⟩ := hw.exists_cons
  exact isFormOf_cons (by simp [Char.isAlpha, ha]) (Char.toUpper_toUpper_eq_toUpper a) hfilled hrest

theorem isCapital_head?_flatMap_raised (hws : ∀ w ∈ ws, IsPlainWord w) :
    ∀ q ∈ (ws.flatMap raised).head?, IsCapital q := by
  cases ws with
  | nil => simp
  | cons w ws =>
      obtain ⟨a, rest, rfl, ha, -, -⟩ := (hws w List.mem_cons_self).exists_cons
      have hcapital : IsCapital (.char a.toUpper) :=
        isCapital_of_isUpper (by simp [Char.isAlpha, ha])
      simpa [raised] using hcapital

theorem splitWords_flatMap_raised (hws : ∀ w ∈ ws, IsPlainWord w) :
    splitWords (ws.flatMap raised) = ws.map raised := by
  induction ws with
  | nil => rfl
  | cons w ws ih =>
      rw [List.forall_mem_cons] at hws
      rw [List.flatMap_cons, (isFormOf_raised hws.1).split _
        (isCapital_head?_flatMap_raised hws.2), ih hws.2, List.map_cons]

/-- Words are found again by their capitals. -/
theorem canonical_append_flatMap_raised (hy : IsFormOf w y) (hws : ∀ w ∈ ws, IsPlainWord w) :
    canonical (y ++ ws.flatMap raised) = raised w ++ ws.flatMap raised := by
  have hplain : ∀ c ∈ y ++ ws.flatMap raised, isSeparator c = false := by
    intro c hc
    rcases List.mem_append.mp hc with hc | hc
    · exact hy.plain c hc
    · obtain ⟨v, hv, hmem⟩ := List.mem_flatMap.mp hc
      exact (isFormOf_raised (hws v hv)).plain c hmem
  have hsame : ∀ v ∈ ws, capitalize (raised v) = raised v := fun v hv =>
    (isFormOf_raised (hws v hv)).capitalized
  rw [canonical, words_eq_splitWords hplain, hy.split _ (isCapital_head?_flatMap_raised hws),
    splitWords_flatMap_raised hws, List.flatMap_cons, hy.capitalized, List.flatMap_map]
  exact congrArg _ (List.flatMap_congr hsame)

/-! ## Spellings -/

theorem canonical_ofChars (hw : IsPlainWord w) : canonical (ofChars w) = raised w := by
  have happend := canonical_append_flatMap_raised (isFormOf_ofChars hw) (List.forall_mem_nil _)
  rwa [List.flatMap_nil, List.append_nil, List.append_nil] at happend

theorem canonical_of_isSpaced (ht : IsSpaced ws t) (hws : ∀ w ∈ ws, IsPlainWord w) :
    canonical t = ws.flatMap raised := by
  induction ht with
  | last w gap hgap =>
      rw [canonical_append_gap _ hgap, canonical_ofChars (hws w List.mem_cons_self),
        List.flatMap_singleton]
  | @cons w gap ws t hfilled hgap ht ih =>
      rw [List.forall_mem_cons] at hws
      rw [canonical_append_append _ _ hfilled hgap, canonical_ofChars hws.1, ih hws.2,
        List.flatMap_cons]

/-- All spellings of a list of words have the same canonical form. -/
theorem canonical_of_spells (hws : ∀ w ∈ ws, IsPlainWord w) (ht : Spells ws t) :
    canonical t = ws.flatMap raised := by
  cases ht with
  | @spaced gap _ t hgap ht =>
      rw [canonical_gap_append hgap, canonical_of_isSpaced ht hws]
  | camel w more =>
      rw [List.forall_mem_cons] at hws
      exact canonical_append_flatMap_raised (isFormOf_ofChars hws.1) hws.2
  | pascal ws =>
      cases ws with
      | nil => rfl
      | cons w more =>
          rw [List.forall_mem_cons] at hws
          exact canonical_append_flatMap_raised (isFormOf_raised hws.1) hws.2

/-- Separators in front of the words, between them and behind them make no difference. -/
theorem canonical_image_not_found :
    (∀ w ∈ ["image".toList, "not".toList, "found".toList], IsPlainWord w) ∧
      Spells ["image".toList, "not".toList, "found".toList] "__image - not_found!" ∧
      canonical "__image - not_found!" =
        ["image".toList, "not".toList, "found".toList].flatMap raised := by
  have hwords : ∀ w ∈ ["image".toList, "not".toList, "found".toList], IsPlainWord w := by
    simp [IsPlainWord, Char.isLower]
  have htext : ("__image - not_found!" : Text) =
      ofString "__" ++ (ofChars "image".toList ++ ofString " - " ++
        (ofChars "not".toList ++ ofString "_" ++ (ofChars "found".toList ++ ofString "!"))) := by
    rfl
  have hspelled : Spells ["image".toList, "not".toList, "found".toList] "__image - not_found!" := by
    rw [htext]
    refine .spaced _ (by decide +kernel) (.cons _ _ (by decide) (by decide +kernel) ?_)
    exact .cons _ _ (by decide) (by decide +kernel) (.last _ _ (by decide +kernel))
  exact ⟨hwords, hspelled, canonical_of_spells hwords hspelled⟩

end Reason
end ActorManifest
