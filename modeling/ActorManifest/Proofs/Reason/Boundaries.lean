import ActorManifest.Proofs.Reason.Words

/-!
# Where words begin

A chunk is cut at each of its boundaries and nowhere else.  Words that are not empty are known by
the text that they make up and by the places where they begin, so the words of a chunk are the
only ones that are cut so.
-/

namespace ActorManifest
namespace Reason

variable {t word other : Text} {words others : List Text} {i : Nat}

/-- One of the words begins at a place of the text that they make up. -/
def BeginsAt (words : List Text) (i : Nat) : Prop :=
  ∃ before word after, words = before ++ word :: after ∧ before.flatten.length = i

theorem beginsAt_cons_iff :
    BeginsAt (word :: words) i ↔ i = 0 ∨ word.length ≤ i ∧ BeginsAt words (i - word.length) := by
  constructor
  · rintro ⟨before, next, after, hsplit, hlength⟩
    cases before with
    | nil => exact .inl hlength.symm
    | cons first before =>
        obtain ⟨rfl, rfl⟩ := List.cons.inj hsplit
        rw [List.flatten_cons, List.length_append] at hlength
        exact .inr ⟨by omega, before, next, after, rfl, by omega⟩
  · rintro (rfl | ⟨hle, before, next, after, rfl, hlength⟩)
    · exact ⟨[], word, words, rfl, rfl⟩
    · refine ⟨word :: before, next, after, rfl, ?_⟩
      rw [List.flatten_cons, List.length_append]
      omega

/-! ## The words of a chunk -/

/-- Right behind the first code point a word begins if a boundary is there.  Further on, words
begin where they begin in the chunk without that code point. -/
theorem beginsAt_splitWords_succ (c d : CodePoint) (t : Text) (i : Nat) :
    BeginsAt (splitWords (c :: d :: t)) (i + 1) ↔
      if i = 0 then isBoundary c d t.head? = true else BeginsAt (splitWords (d :: t)) i := by
  obtain ⟨word, more, hrest⟩ := exists_splitWords_cons d t
  rw [splitWords_cons_cons hrest, hrest]
  by_cases hboundary : isBoundary c d t.head? = true
  · have hstart : BeginsAt ((d :: word) :: more) 0 := beginsAt_cons_iff.mpr (.inl rfl)
    rw [if_pos hboundary, beginsAt_cons_iff]
    by_cases hi : i = 0
    · simp [hi, hboundary, hstart]
    · simp [hi]
  · rw [if_neg hboundary, beginsAt_cons_iff, beginsAt_cons_iff]
    by_cases hi : i = 0
    · simp [hi, hboundary]
    · simp [hi]

/-- Between two neighbours of a chunk a word begins if and only if a boundary is there. -/
theorem beginsAt_splitWords_iff (before : Text) (c d : CodePoint) (after : Text) :
    BeginsAt (splitWords (before ++ c :: d :: after)) (before.length + 1) ↔
      isBoundary c d after.head? = true := by
  induction before with
  | nil => simpa using beginsAt_splitWords_succ c d after 0
  | cons b before ih =>
      obtain ⟨e, rest, hrest⟩ : ∃ e rest, before ++ c :: d :: after = e :: rest :=
        List.exists_cons_of_ne_nil (by simp)
      rw [List.cons_append, hrest, List.length_cons, beginsAt_splitWords_succ,
        if_neg (Nat.succ_ne_zero _), ← hrest]
      exact ih

/-! ## Words by the places where they begin -/

/-- The first word of one list is no longer than that of another, if where a word begins in the
one a word begins in the other. -/
theorem length_le_of_beginsAt
    (hfilled : word ≠ []) (hflatten : (word :: words).flatten = (other :: others).flatten)
    (hbegins : ∀ i, 0 < i → i < (word :: words).flatten.length →
      BeginsAt (word :: words) i → BeginsAt (other :: others) i) :
    other.length ≤ word.length := by
  by_contra hlonger
  have hpos : 0 < word.length := List.length_pos_iff.mpr hfilled
  have hlengths := congrArg List.length hflatten
  simp only [List.flatten_cons, List.length_append] at hlengths
  have hmore : words ≠ [] := by
    rintro rfl
    rw [List.flatten_nil, List.length_nil] at hlengths
    omega
  obtain ⟨next, rest, rfl⟩ := List.exists_cons_of_ne_nil hmore
  have hnext : BeginsAt (word :: next :: rest) word.length := by
    refine beginsAt_cons_iff.mpr (.inr ⟨Nat.le_refl _, ?_⟩)
    rw [Nat.sub_self]
    exact beginsAt_cons_iff.mpr (.inl rfl)
  have hinside : word.length < (word :: next :: rest).flatten.length := by
    rw [List.flatten_cons, List.length_append]
    omega
  rcases beginsAt_cons_iff.mp (hbegins _ hpos hinside hnext) with hzero | ⟨hle, -⟩
  · omega
  · exact hlonger hle

/-- Words that are not empty are known by what they make up and where they begin. -/
theorem eq_of_beginsAt_iff
    (hwords : ∀ word ∈ words, word ≠ []) (hothers : ∀ word ∈ others, word ≠ [])
    (hflatten : words.flatten = others.flatten)
    (hbegins : ∀ i, 0 < i → i < words.flatten.length → (BeginsAt words i ↔ BeginsAt others i)) :
    words = others := by
  induction words generalizing others with
  | nil =>
      refine (List.eq_nil_iff_forall_not_mem.mpr fun word hword => ?_).symm
      exact hothers word hword (List.flatten_eq_nil_iff.mp hflatten.symm word hword)
  | cons word words ih =>
      rw [List.forall_mem_cons] at hwords
      cases others with
      | nil => exact absurd (List.append_eq_nil_iff.mp hflatten).1 hwords.1
      | cons other others =>
          rw [List.forall_mem_cons] at hothers
          have hle : word.length ≤ other.length :=
            length_le_of_beginsAt hothers.1 hflatten.symm fun i hpos hi =>
              (hbegins i hpos (hflatten ▸ hi)).mpr
          have hge : other.length ≤ word.length :=
            length_le_of_beginsAt hwords.1 hflatten fun i hpos hi => (hbegins i hpos hi).mp
          obtain ⟨rfl, hrest⟩ := List.append_inj hflatten (Nat.le_antisymm hle hge)
          refine congrArg _ (ih hwords.2 hothers.2 hrest fun i hpos hi => ?_)
          -- Behind the word that both have in front, places are counted from its end.
          have hbehind : word.length + i ≠ 0 := by omega
          have hlater := hbegins (word.length + i) (by omega) (by simpa using hi)
          rw [beginsAt_cons_iff, beginsAt_cons_iff, Nat.add_sub_cancel_left] at hlater
          simpa only [hbehind, false_or, Nat.le_add_right, true_and] using hlater

/-! ## Words that are cut at the boundaries -/

/-- The words make up a text, none of them is empty, and inside the text one begins exactly where
a capital follows a small letter, where digits begin or end, and at a capital between a capital
and a small letter. -/
structure IsCutOf (t : Text) (words : List Text) : Prop where
  filled : ∀ word ∈ words, word ≠ []
  flatten_eq : words.flatten = t
  beginsAt_iff : ∀ (i : Nat) (hpos : 0 < i) (hi : i < t.length),
    BeginsAt words i ↔
      Unicode.isLower t[i - 1] = true ∧ Unicode.isUpper t[i] = true ∨
        Unicode.isDigit t[i - 1] ≠ Unicode.isDigit t[i] ∨
        Unicode.isUpper t[i - 1] = true ∧ Unicode.isUpper t[i] = true ∧
          ∃ hnext : i + 1 < t.length, Unicode.isLower t[i + 1] = true

theorem isBoundary_iff {c d : CodePoint} {after? : Option CodePoint} :
    isBoundary c d after? = true ↔
      Unicode.isLower c = true ∧ Unicode.isUpper d = true ∨
        Unicode.isDigit c ≠ Unicode.isDigit d ∨
        Unicode.isUpper c = true ∧ Unicode.isUpper d = true ∧
          ∃ e ∈ after?, Unicode.isLower e = true := by
  simp [isBoundary, or_assoc, and_assoc, Option.any_eq_true]

theorem isCutOf_splitWords (t : Text) : IsCutOf t (splitWords t) where
  filled := fun _ hword => ne_nil_of_mem_splitWords hword
  flatten_eq := flatten_splitWords t
  beginsAt_iff := by
    intro i hpos hi
    obtain ⟨k, rfl⟩ : ∃ k, i = k + 1 := Nat.exists_eq_add_one_of_ne_zero (Nat.ne_of_gt hpos)
    have hparts : t = t.take k ++ t[k] :: t[k + 1] :: t.drop (k + 2) := by
      rw [← List.drop_eq_getElem_cons, ← List.drop_eq_getElem_cons, List.take_append_drop]
    have hlength : (t.take k).length = k := List.length_take_of_le (by omega)
    have hbegins := beginsAt_splitWords_iff (t.take k) t[k] t[k + 1] (t.drop (k + 2))
    rw [← hparts, hlength, isBoundary_iff, List.head?_drop] at hbegins
    rw [hbegins]
    simp [List.getElem?_eq_some_iff]

/-- The splitter cuts a text into words at its boundaries, and nothing else does. -/
theorem isCutOf_iff_eq_splitWords : IsCutOf t words ↔ words = splitWords t := by
  constructor
  · intro hcut
    have hsplit := isCutOf_splitWords t
    have hflatten : words.flatten = (splitWords t).flatten :=
      hcut.flatten_eq.trans hsplit.flatten_eq.symm
    refine eq_of_beginsAt_iff hcut.filled hsplit.filled hflatten fun i hpos hi => ?_
    rw [hcut.flatten_eq] at hi
    rw [hcut.beginsAt_iff i hpos hi, hsplit.beginsAt_iff i hpos hi]
  · rintro rfl
    exact isCutOf_splitWords t

example : splitWords "HTTPError404é" = ["HTTP", "Error", "404", "é"] := by
  decide +kernel

end Reason
end ActorManifest
