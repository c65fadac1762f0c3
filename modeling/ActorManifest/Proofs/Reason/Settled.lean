import ActorManifest.Proofs.Reason.Words
import ActorManifest.Proofs.Unicode.CaseMap

/-!
# Canonical forms that stay as they are

A canonical form has no separators left, so the words that it was made of must be found again by
their letters alone.
-/

namespace ActorManifest

open Unicode

/-! ## Words that are capitalized already -/

namespace Text

variable {t u v : Text}

/-- The text begins in title case and goes on in lower case. -/
def IsCapitalized : Text → Prop
  | [] => True
  | c :: rest => IsTitle c ∧ ∀ d ∈ rest, IsSmall d

theorem isLowerForm_sigma {small : CodePoint} (hsmall : small = .char 'ς' ∨ small = .char 'σ') :
    IsLowerForm capitalSigma [small] ∧ small ≠ capitalSigma := by
  have hother : small ≠ capitalSigma := by
    rcases hsmall with rfl | rfl <;> decide
  refine ⟨⟨by simp, fun rest heq => absurd (List.cons.inj heq).1 hother, ?_, ?_⟩, hother⟩
  · rcases hsmall with rfl | rfl <;> decide +kernel
  · rcases hsmall with rfl | rfl <;> decide +kernel

/-- A code point inside a word is replaced by a lower-case form, which depends on its neighbours
for one letter only, and that letter is never left as it is. -/
theorem exists_lowerAfter_cons (before : Text) (c : CodePoint) (t : Text) :
    ∃ small, lowerAfter before (c :: t) = small ++ lowerAfter (c :: before) t ∧
      IsLowerForm c small ∧ (small = [c] ↔ IsSmall c) := by
  by_cases hsigma : c = capitalSigma
  · subst hsigma
    have hcapital : ¬IsSmall capitalSigma := by decide +kernel
    obtain ⟨small, hchosen, hsmall⟩ : ∃ small : CodePoint,
        lowerAfter before (capitalSigma :: t) = [small] ++ lowerAfter (capitalSigma :: before) t ∧
          (small = .char 'ς' ∨ small = .char 'σ') := by
      simp only [lowerAfter, if_true]
      split
      · exact ⟨_, rfl, .inl rfl⟩
      · exact ⟨_, rfl, .inr rfl⟩
    obtain ⟨hform, hother⟩ := isLowerForm_sigma hsmall
    exact ⟨[small], hchosen, hform, by simp [hother, hcapital]⟩
  · refine ⟨toLower c, ?_, isLowerForm_toLower c, Iff.rfl⟩
    simp only [lowerAfter, if_neg hsigma]

theorem lowerAfter_append_eq_iff (before : Text) :
    lowerAfter before t ++ u = t ++ v ↔ (∀ c ∈ t, IsSmall c) ∧ u = v := by
  induction t generalizing before with
  | nil => simp [lowerAfter]
  | cons c t ih =>
      obtain ⟨small, hlower, hform, hsmall⟩ := exists_lowerAfter_cons before c t
      rw [hlower, List.append_assoc, List.forall_mem_cons, and_assoc, ← ih (c :: before)]
      constructor
      · intro heq
        obtain ⟨first, rest, rfl⟩ := List.exists_cons_of_ne_nil hform.filled
        obtain ⟨rfl, heq⟩ := List.cons.inj heq
        obtain rfl := hform.single rest rfl
        exact ⟨hsmall.mp rfl, heq⟩
      · rintro ⟨hc, heq⟩
        rw [hsmall.mpr hc, heq]
        rfl

theorem capitalize_append_eq_iff :
    capitalize t ++ u = t ++ v ↔ IsCapitalized t ∧ u = v := by
  cases t with
  | nil => simp [capitalize, IsCapitalized]
  | cons c t =>
      obtain ⟨first, rest, htitle, hform⟩ := exists_isTitleForm c
      rw [capitalize, IsCapitalized, List.append_assoc, and_assoc,
        ← lowerAfter_append_eq_iff [c]]
      constructor
      · intro heq
        rw [htitle] at heq
        obtain ⟨rfl, heq⟩ := List.cons.inj heq
        obtain rfl := hform.single rfl
        exact ⟨htitle, heq⟩
      · rintro ⟨hc, heq⟩
        rw [hc, heq]
        rfl

theorem flatMap_capitalize_append_eq_iff {words : List Text} :
    words.flatMap capitalize ++ u = words.flatten ++ v ↔
      (∀ w ∈ words, IsCapitalized w) ∧ u = v := by
  induction words with
  | nil => simp
  | cons w words ih =>
      rw [List.flatMap_cons, List.flatten_cons, List.append_assoc, List.append_assoc,
        capitalize_append_eq_iff, ih, List.forall_mem_cons, and_assoc]

end Text

namespace Reason

open Text

/-- No canonical form begins with a separator. -/
theorem isSeparator_head_canonical {c : CodePoint} {t rest : Text}
    (hcanonical : canonical t = c :: rest) : isSeparator c = false := by
  unfold canonical at hcanonical
  cases hwords : words t with
  | nil =>
      rw [hwords] at hcanonical
      cases hcanonical
  | cons word more =>
      have hmem : word ∈ words t := hwords ▸ List.mem_cons_self
      obtain ⟨d, word, rfl⟩ := List.exists_cons_of_ne_nil (ne_nil_of_mem_words hmem)
      obtain ⟨first, others, htitle, hform⟩ := exists_isTitleForm d
      have hd := isSeparator_of_mem_words hmem List.mem_cons_self
      rw [hwords, List.flatMap_cons, capitalize, htitle] at hcanonical
      obtain ⟨rfl, -⟩ := List.cons.inj hcanonical
      rw [isSeparator_eq, Bool.not_eq_false'] at hd ⊢
      exact hform.word hd

theorem canonical_append_eq_iff
    {t u v : Text} (ht : ∀ c ∈ t, isSeparator c = false) :
    canonical t ++ u = t ++ v ↔ (∀ w ∈ splitWords t, IsCapitalized w) ∧ u = v := by
  rw [← flatMap_capitalize_append_eq_iff, flatten_splitWords, canonical, words_eq_splitWords ht]

/-- A text is its own canonical form if and only if it holds no separators and its words are
capitalized. -/
theorem canonical_eq_self_iff (y : Text) :
    canonical y = y ↔
      (∀ c ∈ y, isSeparator c = false) ∧ ∀ w ∈ splitWords y, IsCapitalized w := by
  cases hfound : y.find? isSeparator with
  | none =>
      have hplain : ∀ c ∈ y, isSeparator c = false := by
        simpa using List.find?_eq_none.mp hfound
      have hiff := canonical_append_eq_iff (u := []) (v := []) hplain
      rw [List.append_nil, List.append_nil] at hiff
      rw [hiff, and_iff_left rfl, and_iff_right hplain]
  | some c =>
      obtain ⟨hc, before, after, rfl, hbefore⟩ := List.find?_eq_some_iff_append.mp hfound
      refine iff_of_false ?_ fun hplain => ?_
      · -- What is left of the text would begin with its first separator.
        intro heq
        have hsplit := canonical_append_append before after (List.cons_ne_nil c [])
          (List.forall_mem_singleton.mpr hc)
        rw [List.append_assoc, List.singleton_append, heq, eq_comm,
          canonical_append_eq_iff (by simpa using hbefore)] at hsplit
        rw [isSeparator_head_canonical hsplit.2] at hc
        cases hc
      · rw [hplain.1 c (by simp)] at hc
        cases hc

/-! ## Words that are told apart -/

variable {p q : CodePoint} {t : Text}

/-- Every code point behind another begins a word or is its own lower-case form. -/
def IsTold (t : Text) : Prop :=
  ∀ i p q, t[i]? = some p → t[i + 1]? = some q →
    isBoundary p q t[i + 2]? = true ∨ IsSmall q

theorem isTold_singleton (c : CodePoint) : IsTold [c] := by
  intro i p q hp hq
  simp at hq

theorem isTold_cons_cons :
    IsTold (p :: q :: t) ↔
      (isBoundary p q t.head? = true ∨ IsSmall q) ∧ IsTold (q :: t) := by
  constructor
  · intro htold
    refine ⟨?_, fun i c d hc hd => htold (i + 1) c d hc hd⟩
    rw [List.head?_eq_getElem?]
    exact htold 0 p q rfl rfl
  · rintro ⟨hfirst, hrest⟩ i c d hc hd
    cases i with
    | zero =>
        obtain rfl : p = c := Option.some.inj hc
        obtain rfl : q = d := Option.some.inj hd
        rwa [List.head?_eq_getElem?] at hfirst
    | succ i => exact hrest i c d hc hd

/-- A code point that may stand behind another in a canonical form. -/
def Follows (p q : CodePoint) : Prop :=
  IsTitle q ∨ isDigit p = isDigit q ∧ isUpper q = false

theorem isTitle_of_isBoundary {after : Option CodePoint} (hfollows : Follows p q)
    (hboundary : isBoundary p q after = true) : IsTitle q := by
  rcases hfollows with htitle | ⟨hdigit, hupper⟩
  · exact htitle
  · simp [isBoundary, hdigit, hupper] at hboundary

/-- Where the first letters of words are in title case, the words are capitalized if all other
letters are small. -/
theorem isTold_iff_of_isChain
    {c : CodePoint} {word : Text} {more : List Text} (hchain : (c :: t).IsChain Follows)
    (hwords : splitWords (c :: t) = (c :: word) :: more) :
    IsTold (c :: t) ↔ (∀ d ∈ word, IsSmall d) ∧ ∀ w ∈ more, IsCapitalized w := by
  -- Along the text: the letter in front is a word by itself, or the first word grows by it.
  induction t generalizing c word more with
  | nil =>
      obtain ⟨rfl, rfl⟩ : word = [] ∧ more = [] := by
        simpa [splitWords, eq_comm] using hwords
      simp [isTold_singleton]
  | cons d t ih =>
      obtain ⟨hfollows, hrest⟩ := List.isChain_cons_cons.mp hchain
      obtain ⟨first, others, hfound⟩ := exists_splitWords_cons d t
      rw [splitWords_cons_cons hfound] at hwords
      rw [isTold_cons_cons, ih hrest hfound]
      split at hwords
      · rename_i hboundary
        obtain ⟨hfirst, rfl⟩ := List.cons.inj hwords
        obtain ⟨-, rfl⟩ := List.cons.inj hfirst
        have htitle := isTitle_of_isBoundary hfollows hboundary
        simp [hboundary, IsCapitalized, htitle]
      · rename_i hboundary
        obtain ⟨hfirst, rfl⟩ := List.cons.inj hwords
        obtain ⟨-, rfl⟩ := List.cons.inj hfirst
        simp [hboundary, and_assoc]

/-! ## Canonical forms -/

theorem isDigit_of_mem_lowerAfter
    (before : Text) {digit : Bool} (ht : ∀ c ∈ t, isDigit c = digit) :
    ∀ q ∈ lowerAfter before t, isDigit q = digit ∧ (isUpper q = true → IsTitle q) := by
  induction t generalizing before with
  | nil => simp [lowerAfter]
  | cons c t ih =>
      rw [List.forall_mem_cons] at ht
      obtain ⟨small, hlower, hform, -⟩ := exists_lowerAfter_cons before c t
      rw [hlower]
      intro q hq
      rcases List.mem_append.mp hq with hq | hq
      · exact ⟨(hform.digit q hq).trans ht.1, hform.upper q hq⟩
      · exact ih _ ht.2 q hq

/-- A text may be one word of a canonical form behind its first letter if it is of digits or
without them and its capitals are in title case. -/
theorem isChain_follows
    {digit : Bool} (hdigit : ∀ q ∈ p :: t, isDigit q = digit)
    (hupper : ∀ q ∈ t, isUpper q = true → IsTitle q) : (p :: t).IsChain Follows := by
  induction t generalizing p with
  | nil => exact .singleton p
  | cons q t ih =>
      rw [List.forall_mem_cons] at hdigit hupper
      refine List.isChain_cons_cons.mpr ⟨?_, ih hdigit.2 hupper.2⟩
      cases hq : isUpper q with
      | true => exact .inl (hupper.1 hq)
      | false => exact .inr ⟨by rw [hdigit.1, hdigit.2 q List.mem_cons_self], hq⟩

/-- The text may stand behind any other in a canonical form. -/
structure IsSequel (t : Text) : Prop where
  title : ∀ c ∈ t.head?, IsTitle c
  chain : t.IsChain Follows

theorem isSequel_nil : IsSequel [] :=
  ⟨by simp, .nil⟩

theorem IsSequel.append {u : Text} (ht : IsSequel t) (hu : IsSequel u) : IsSequel (t ++ u) := by
  refine ⟨?_, List.isChain_append.mpr ⟨ht.chain, hu.chain, fun p _ q hq => .inl (hu.title q hq)⟩⟩
  cases t with
  | nil => exact hu.title
  | cons c t => exact ht.title

theorem isSequel_flatMap_capitalize
    {words : List Text} (hwords : ∀ w ∈ words, IsSequel (capitalize w)) :
    IsSequel (words.flatMap capitalize) := by
  induction words with
  | nil => exact isSequel_nil
  | cons w words ih =>
      rw [List.forall_mem_cons] at hwords
      exact hwords.1.append (ih hwords.2)

theorem isSequel_capitalize
    {c : CodePoint} {rest : Text} (hrest : ∀ d ∈ rest, isDigit d = isDigit c) :
    IsSequel (capitalize (c :: rest)) := by
  obtain ⟨first, others, htitle, hform⟩ := exists_isTitleForm c
  have hlower := isDigit_of_mem_lowerAfter [c] hrest
  have hdigit : ∀ q ∈ first :: others ++ lowerAfter [c] rest, isDigit q = isDigit c :=
    List.forall_mem_append.mpr ⟨hform.digit, fun q hq => (hlower q hq).1⟩
  have hupper : ∀ q ∈ others ++ lowerAfter [c] rest, isUpper q = true → IsTitle q :=
    List.forall_mem_append.mpr ⟨hform.upper, fun q hq => (hlower q hq).2⟩
  rw [capitalize, htitle, List.cons_append]
  exact ⟨by simpa using hform.title, isChain_follows hdigit hupper⟩

/-- The letters of a word are all digits, or none of them is. -/
theorem isDigit_of_mem_splitWords
    {c : CodePoint} {rest : Text} (hmem : c :: rest ∈ splitWords t) :
    ∀ d ∈ rest, isDigit d = isDigit c := by
  have hchain : (c :: rest).IsChain fun p q => isDigit p = isDigit q := by
    refine isChain_of_mem_splitWords (fun p q after hboundary => ?_) hmem
    simp only [isBoundary, Bool.or_eq_false_iff, bne_eq_false_iff_eq] at hboundary
    exact hboundary.1.2
  intro d hd
  exact (List.rel_of_pairwise_cons hchain.pairwise hd).symm

theorem isSequel_canonical (x : Text) : IsSequel (canonical x) := by
  refine isSequel_flatMap_capitalize fun w hw => ?_
  obtain ⟨chunk, -, hmem⟩ := List.mem_flatMap.mp hw
  obtain ⟨c, rest, rfl⟩ := List.exists_cons_of_ne_nil (ne_nil_of_mem_splitWords hmem)
  exact isSequel_capitalize (isDigit_of_mem_splitWords hmem)

/-- The words of the text are found by their letters alone. -/
@[mk_iff]
structure IsSettled (t : Text) : Prop where
  plain : ∀ c ∈ t, isSeparator c = false
  told : IsTold t

/-- A canonical form is canonical again if and only if its words are found by their letters. -/
theorem canonical_canonical_iff (x : Text) :
    canonical (canonical x) = canonical x ↔ IsSettled (canonical x) := by
  rw [canonical_eq_self_iff, isSettled_iff]
  refine and_congr_right fun _ => ?_
  obtain ⟨htitle, hchain⟩ := isSequel_canonical x
  generalize canonical x = y at htitle hchain
  cases y with
  | nil => simp [splitWords, IsTold]
  | cons c rest =>
      obtain ⟨word, more, hwords⟩ := exists_splitWords_cons c rest
      have hc : IsTitle c := htitle c rfl
      rw [isTold_iff_of_isChain hchain hwords, hwords, List.forall_mem_cons, IsCapitalized,
        and_iff_right hc]

end Reason
end ActorManifest
