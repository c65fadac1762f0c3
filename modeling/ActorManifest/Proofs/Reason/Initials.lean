import ActorManifest.Proofs.Reason.Letters
import ActorManifest.Proofs.Reason.Settled
import ActorManifest.Status.Condition

/-!
# Letters that stand alone

The words of an ASCII text are of digits or of letters.  A canonical form shows where they begin,
except where a letter that is a word by itself follows another one: two capitals side by side read
as an abbreviation.
-/

namespace ActorManifest
namespace Reason

open CodePoint Text Unicode

/-- The word is a letter by itself. -/
def IsInitial (w : Text) : Prop :=
  ∃ c, w = [c] ∧ c.isAsciiLetter = true

instance (w : Text) : Decidable (IsInitial w) :=
  match w with
  | [] => .isFalse (by simp [IsInitial])
  | [c] => decidable_of_iff (c.isAsciiLetter = true) (by simp [IsInitial])
  | _ :: _ :: _ => .isFalse (by simp [IsInitial])

/-- What a word of an ASCII text is capitalized to: digits, or a capital, or a capital and small
letters behind it. -/
inductive IsCapitalizedTo (w : Text) : Text → Prop
  | number {p : CodePoint} {t : Text} (hdigits : ∀ d ∈ p :: t, IsFigure d)
      (hmany : ¬IsInitial w) : IsCapitalizedTo w (p :: t)
  | initial {p : CodePoint} (hcapital : IsCapital p) (hone : IsInitial w) : IsCapitalizedTo w [p]
  | letters {p : CodePoint} {t : Text} (hcapital : IsCapital p) (hfilled : t ≠ [])
      (hlittle : ∀ d ∈ t, IsLittle d) (hmany : ¬IsInitial w) : IsCapitalizedTo w (p :: t)

variable {p q : CodePoint} {s t v w x rest : Text}

namespace IsCapitalizedTo

theorem exists_cons {y : Text} (hw : IsCapitalizedTo w y) : ∃ p t, y = p :: t := by
  cases hw with
  | number _ _ => exact ⟨_, _, rfl⟩
  | initial _ _ => exact ⟨_, _, rfl⟩
  | letters _ _ _ _ => exact ⟨_, _, rfl⟩

theorem small (hw : IsCapitalizedTo w (p :: t)) : ∀ d ∈ t, IsSmall d := by
  cases hw with
  | number hdigits _ => exact fun d hd => (hdigits d (List.mem_cons_of_mem p hd)).small
  | initial _ _ => simp
  | letters _ _ hlittle _ => exact fun d hd => (hlittle d hd).small

/-- How a word begins. -/
theorem head (hw : IsCapitalizedTo w (p :: t)) :
    IsInitial w ∧ IsCapital p ∧ t = [] ∨ ¬IsInitial w ∧ IsFigure p ∨
      ¬IsInitial w ∧ IsCapital p ∧ ∃ d more, t = d :: more ∧ IsLittle d := by
  cases hw with
  | number hdigits hmany => exact .inr (.inl ⟨hmany, hdigits p List.mem_cons_self⟩)
  | initial hcapital hone => exact .inl ⟨hone, hcapital, rfl⟩
  | letters hcapital hfilled hlittle hmany =>
      obtain ⟨d, more, rfl⟩ := List.exists_cons_of_ne_nil hfilled
      exact .inr (.inr ⟨hmany, hcapital, d, more, rfl, hlittle d List.mem_cons_self⟩)

/-- How a word ends. -/
theorem getLast (hw : IsCapitalizedTo w (p :: t)) :
    let last := (p :: t).getLast (List.cons_ne_nil p t)
    IsInitial w ∧ IsCapital last ∨ ¬IsInitial w ∧ (IsFigure last ∨ IsLittle last) := by
  intro last
  cases hw with
  | number hdigits hmany => exact .inr ⟨hmany, .inl (hdigits last (List.getLast_mem _))⟩
  | initial hcapital hone => exact .inl ⟨hone, hcapital⟩
  | letters hcapital hfilled hlittle hmany =>
      have hlast : last = t.getLast hfilled := List.getLast_cons hfilled
      exact .inr ⟨hmany, .inr (hlast ▸ hlittle _ (List.getLast_mem hfilled))⟩

end IsCapitalizedTo

/-- Between two words of an ASCII text only two capitals side by side hide where the second word
begins. -/
theorem joint_iff (hv : IsCapitalizedTo v (p :: s)) (hw : IsCapitalizedTo w (q :: t))
    (hrest : ∀ c ∈ rest.head?, isLower c = false) :
    isBoundary ((p :: s).getLast (List.cons_ne_nil p s)) q (t ++ rest).head? = true ∨ IsSmall q ↔
      ¬(IsInitial v ∧ IsInitial w) := by
  have hlast := hv.getLast
  -- Of the first word only its last letter matters, of the second one its first two.
  generalize (p :: s).getLast (List.cons_ne_nil p s) = last at hlast ⊢
  rcases hw.head with ⟨hone, hq, rfl⟩ | ⟨hmany, hq⟩ | ⟨hmany, hq, d, more, rfl, hd⟩
  · rcases hlast with ⟨hinitial, hp⟩ | ⟨hword, hp | hp⟩
    · cases hhead : rest.head? with
      | none => simp [isBoundary, hinitial, hone, hhead, hp.digit, hp.lower, hq.digit, hq.large]
      | some c =>
          have hc := hrest c hhead
          simp [isBoundary, hinitial, hone, hhead, hp.digit, hp.lower, hq.digit, hq.large, hc]
    · simp [isBoundary, hword, hp.digit, hq.digit]
    · simp [isBoundary, hword, hp.lower, hq.upper]
  · simp [hmany, hq.small]
  · rcases hlast with ⟨-, hp⟩ | ⟨-, hp | hp⟩
    · simp [isBoundary, hmany, hp.upper, hq.upper, hd.lower]
    · simp [isBoundary, hmany, hp.digit, hq.digit]
    · simp [isBoundary, hmany, hp.lower, hq.upper]

/-- Behind its first letter a word is told apart from the next one at its end only. -/
theorem isTold_cons_append_cons (hs : ∀ d ∈ s, IsSmall d) :
    IsTold (p :: (s ++ q :: t)) ↔
      (isBoundary ((p :: s).getLast (List.cons_ne_nil p s)) q t.head? = true ∨ IsSmall q) ∧
        IsTold (q :: t) := by
  induction s generalizing p with
  | nil => exact isTold_cons_cons
  | cons d s ih =>
      rw [List.forall_mem_cons] at hs
      rw [List.cons_append, isTold_cons_cons, and_iff_right (.inr hs.1), ih hs.2,
        List.getLast_cons (List.cons_ne_nil d s)]

theorem isTold_cons (ht : ∀ d ∈ t, IsSmall d) : IsTold (p :: t) :=
  fun _ _ d _ hd => .inr (ht d (List.mem_of_getElem? hd))

theorem isLower_head?_flatMap_capitalize {ws : List Text}
    (hws : ∀ w ∈ ws, IsCapitalizedTo w (capitalize w)) :
    ∀ c ∈ (ws.flatMap capitalize).head?, isLower c = false := by
  cases ws with
  | nil => simp
  | cons w ws =>
      have hw := hws w List.mem_cons_self
      rw [List.flatMap_cons]
      generalize capitalize w = y at hw
      cases hw with
      | number hdigits _ => simpa using (hdigits _ List.mem_cons_self).lower
      | initial hcapital _ => simpa using hcapital.lower
      | letters hcapital _ _ _ => simpa using hcapital.lower

/-- The words are told apart unless two of them that stand alone are neighbours. -/
theorem isTold_flatMap_capitalize_iff {ws : List Text}
    (hws : ∀ w ∈ ws, IsCapitalizedTo w (capitalize w)) :
    IsTold (ws.flatMap capitalize) ↔ ws.IsChain fun v w => ¬(IsInitial v ∧ IsInitial w) := by
  -- Along the words: inside a word all is small, so only the joint behind it counts.
  induction ws with
  | nil => simp [IsTold]
  | cons v ws ih =>
      rw [List.forall_mem_cons] at hws
      obtain ⟨hv, hws⟩ := hws
      obtain ⟨p, s, hp⟩ := hv.exists_cons
      rw [hp] at hv
      cases ws with
      | nil => simpa [hp] using isTold_cons hv.small
      | cons w ws =>
          have ih := ih hws
          obtain ⟨hw, hrest⟩ := List.forall_mem_cons.mp hws
          obtain ⟨q, t, hq⟩ := hw.exists_cons
          rw [hq] at hw
          rw [List.flatMap_cons, hq, List.cons_append] at ih
          rw [List.flatMap_cons, List.flatMap_cons, hp, hq, List.cons_append, List.cons_append,
            isTold_cons_append_cons hv.small,
            joint_iff hv hw (isLower_head?_flatMap_capitalize hrest), List.isChain_cons_cons, ih]

/-- A word of an ASCII text has a letter in every place or in none. -/
theorem isAsciiLetter_of_mem_words
    {c : CodePoint} (hx : ∀ c ∈ x, c.toNat < 128) (hw : c :: t ∈ words x) :
    ∀ d ∈ t, d.isAsciiLetter = c.isAsciiLetter := by
  have hsigns := isAsciiAlphanum_of_mem_words hx hw
  obtain ⟨chunk, -, hmem⟩ := List.mem_flatMap.mp hw
  intro d hd
  have hdigit := isDigit_of_mem_splitWords hmem d hd
  rw [isDigit_of_isAsciiAlphanum (hsigns d (List.mem_cons_of_mem c hd)),
    isDigit_of_isAsciiAlphanum (hsigns c List.mem_cons_self)] at hdigit
  simpa using hdigit

theorem isCapitalizedTo_of_digits {c : CodePoint} (hdigits : ∀ d ∈ c :: t, d.isAsciiDigit = true) :
    IsCapitalizedTo (c :: t) (c.mapChar Char.toUpper :: t.map (mapChar Char.toLower)) := by
  have hc := hdigits c List.mem_cons_self
  refine .number ?_ ?_
  · rw [List.forall_mem_cons, List.forall_mem_map]
    exact ⟨(mapChar_of_isAsciiDigit hc).1, fun d hd =>
      (mapChar_of_isAsciiDigit (hdigits d (List.mem_cons_of_mem c hd))).2⟩
  · rintro ⟨d, heq, hd⟩
    rw [← (List.cons.inj heq).1, isAsciiLetter_eq_false hc] at hd
    cases hd

theorem isCapitalizedTo_of_letters
    {c : CodePoint} (hletters : ∀ d ∈ c :: t, d.isAsciiLetter = true) :
    IsCapitalizedTo (c :: t) (c.mapChar Char.toUpper :: t.map (mapChar Char.toLower)) := by
  rw [List.forall_mem_cons] at hletters
  have hcapital := (mapChar_of_isAsciiLetter hletters.1).1
  cases t with
  | nil => exact .initial hcapital ⟨c, rfl, hletters.1⟩
  | cons d t =>
      refine .letters hcapital (by simp) ?_ ?_
      · rw [List.forall_mem_map]
        exact fun e he => (mapChar_of_isAsciiLetter (hletters.2 e he)).2
      · rintro ⟨e, heq, -⟩
        cases (List.cons.inj heq).2

theorem isCapitalizedTo_of_mem_words (hx : ∀ c ∈ x, c.toNat < 128) (hw : w ∈ words x) :
    IsCapitalizedTo w (capitalize w) := by
  obtain ⟨c, t, rfl⟩ := List.exists_cons_of_ne_nil (ne_nil_of_mem_words hw)
  have hsigns := isAsciiAlphanum_of_mem_words hx hw
  have hletter := isAsciiLetter_of_mem_words hx hw
  have hlt : ∀ d ∈ c :: t, d.toNat < 128 := fun d hd => lt_of_isAsciiAlphanum (hsigns d hd)
  rw [List.forall_mem_cons] at hlt
  rw [capitalize_of_lt hlt.1 hlt.2]
  cases hc : c.isAsciiLetter with
  | true =>
      refine isCapitalizedTo_of_letters ?_
      exact List.forall_mem_cons.mpr ⟨hc, fun d hd => (hletter d hd).trans hc⟩
  | false =>
      have hnone : ∀ d ∈ c :: t, d.isAsciiLetter = false :=
        List.forall_mem_cons.mpr ⟨hc, fun d hd => (hletter d hd).trans hc⟩
      refine isCapitalizedTo_of_digits fun d hd => ?_
      simpa [isAsciiAlphanum, hnone d hd] using hsigns d hd

/-- The canonical form of an ASCII text is canonical again if and only if no two words of the
text that are neighbours stand alone. -/
theorem isSettled_canonical_iff (hx : ∀ c ∈ x, c.toNat < 128) :
    IsSettled (canonical x) ↔ (words x).IsChain fun v w => ¬(IsInitial v ∧ IsInitial w) := by
  have hplain : ∀ c ∈ canonical x, isSeparator c = false := by
    intro c hc
    have hsign := isAsciiAlphanum_of_mem_canonical hx c hc
    rw [isSeparator_of_lt (lt_of_isAsciiAlphanum hsign), hsign]
    rfl
  rw [← isTold_flatMap_capitalize_iff fun w hw => isCapitalizedTo_of_mem_words hx hw]
  exact ⟨IsSettled.told, fun htold => ⟨hplain, htold⟩⟩

/-- A canonical form is canonical again, and a condition with it keeps its reason when it is
written again, if and only if the form shows where its words begin; the canonical form of an ASCII
text shows it unless two words of the text that are neighbours are single letters. -/
theorem canonical_canonical_eq_iff (x : Text) :
    (canonical (canonical x) = canonical x ↔ IsSettled (canonical x)) ∧
      ((∀ c ∈ x, c.toNat < 128) →
        (canonical (canonical x) = canonical x ↔
          (words x).IsChain fun v w => ¬(IsInitial v ∧ IsInitial w))) ∧
      ∀ (phase phase' : Phase) (asserted asserted' : Bool) (message message' : Text)
        (now now' : Timestamp),
        let stored := Condition.write phase asserted x message now
        (Condition.write phase' asserted' stored.reason message' now').reason = stored.reason ↔
          IsSettled (canonical x) :=
  ⟨canonical_canonical_iff x,
    fun hx => (canonical_canonical_iff x).trans (isSettled_canonical_iff hx),
    fun _ _ _ _ _ _ _ _ => canonical_canonical_iff x⟩

/-- An abbreviation in front of a word and a letter behind a digit are no obstacles. -/
theorem canonical_canonical_httpError :
    (∀ c ∈ ("HTTPError 4 a" : Text), c.toNat < 128) ∧
      ((words "HTTPError 4 a").IsChain fun v w => ¬(IsInitial v ∧ IsInitial w)) ∧
      canonical (canonical "HTTPError 4 a") = canonical "HTTPError 4 a" := by
  have hplain : ∀ c ∈ ("HTTPError 4 a" : Text), c.toNat < 128 := by decide +kernel
  have hchain : (words "HTTPError 4 a").IsChain fun v w => ¬(IsInitial v ∧ IsInitial w) := by
    decide +kernel
  obtain ⟨-, hascii, -⟩ := canonical_canonical_eq_iff "HTTPError 4 a"
  exact ⟨hplain, hchain, (hascii hplain).mpr hchain⟩

/-- Two letters that stand alone read as an abbreviation when they are read again. -/
theorem canonical_canonical_ne :
    canonical "a b" = "AB" ∧ canonical (canonical "a b") ≠ canonical "a b" := by
  decide +kernel

end Reason
end ActorManifest
