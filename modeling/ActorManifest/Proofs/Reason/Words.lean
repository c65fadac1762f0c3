import ActorManifest.Status.Reason
import Mathlib.Data.List.Chain

/-!
# Words of a reason

Separators cut a text into chunks and are lost; nothing else is.  A chunk is cut at its
boundaries into words, and nothing is lost there.  So the canonical forms of the parts of a text
between its separators, one after another, are the canonical form of the text.
-/

namespace ActorManifest
namespace Reason

variable {c d : CodePoint} {s t : Text}

/-- Nothing but letters and digits stands within words. -/
theorem isSeparator_eq (c : CodePoint) : isSeparator c = !Unicode.isWordSign c := by
  have hunderscore : Unicode.isWordSign (.char '_') = false := by decide +kernel
  by_cases hc : c = .char '_'
  · rw [hc, isSeparator, hunderscore]
    rfl
  · simp [isSeparator, hc]

/-! ## Chunks -/

theorem chunks_cons_of_separator (hc : isSeparator c = true) (t : Text) :
    chunks (c :: t) = chunks t := by
  conv_lhs => unfold chunks
  rw [if_pos hc]

theorem chunks_singleton (hc : ¬isSeparator c = true) : chunks [c] = [[c]] := by
  simp [chunks, hc]

theorem chunks_cons_separator (hc : ¬isSeparator c = true) (hd : isSeparator d = true)
    (t : Text) : chunks (c :: d :: t) = [c] :: chunks (d :: t) := by
  conv_lhs => unfold chunks
  simp [hc, hd]

/-- A code point is put in front of the chunk behind it if neither is a separator. -/
theorem chunks_cons_cons
    {chunk : Text} {more : List Text} (hc : ¬isSeparator c = true) (hd : ¬isSeparator d = true)
    (hrest : chunks (d :: t) = chunk :: more) :
    chunks (c :: d :: t) = (c :: chunk) :: more := by
  conv_lhs => unfold chunks
  simp [hc, hd, hrest]

theorem chunks_cons_ne_nil (hc : ¬isSeparator c = true) (t : Text) : chunks (c :: t) ≠ [] := by
  unfold chunks
  rw [if_neg hc]
  split
  · exact List.cons_ne_nil _ _
  · split
    · exact List.cons_ne_nil _ _
    · split <;> exact List.cons_ne_nil _ _

/-- Only separators are lost. -/
theorem flatten_chunks (t : Text) : (chunks t).flatten = t.filter fun c => !isSeparator c := by
  fun_induction chunks t with
  | case1 => rfl
  | case2 c rest hc ih => simp [hc, ih]
  | case3 c hc => simp [hc]
  | case4 c hc d rest hd ih => simpa [hc] using ih
  | case5 c hc d rest hd hnone ih => exact absurd hnone (chunks_cons_ne_nil hd rest)
  | case6 c hc d rest hd first more hfound ih =>
      rw [hfound] at ih ⊢
      rw [List.filter_cons_of_pos (by simpa using hc), ← ih]
      rfl

/-- A text without separators is one chunk. -/
theorem chunks_eq_singleton (hfilled : t ≠ []) (ht : ∀ c ∈ t, isSeparator c = false) :
    chunks t = [t] := by
  induction t with
  | nil => exact absurd rfl hfilled
  | cons c t ih =>
      rw [List.forall_mem_cons] at ht
      have hc : ¬isSeparator c = true := by simp [ht.1]
      cases t with
      | nil => exact chunks_singleton hc
      | cons d t =>
          have hd : ¬isSeparator d = true := by simp [ht.2 d List.mem_cons_self]
          exact chunks_cons_cons hc hd (ih (List.cons_ne_nil d t) ht.2)

theorem chunks_append_of_separators (hs : ∀ c ∈ s, isSeparator c = true) (t : Text) :
    chunks (s ++ t) = chunks t := by
  induction s with
  | nil => rfl
  | cons c s ih =>
      rw [List.forall_mem_cons] at hs
      rw [List.cons_append, chunks_cons_of_separator hs.1, ih hs.2]

/-- A separator ends the chunks in front of it. -/
theorem chunks_append_separator_cons (s : Text) (hc : isSeparator c = true) (t : Text) :
    chunks (s ++ c :: t) = chunks s ++ chunks t := by
  fun_induction chunks s with
  | case1 => exact chunks_cons_of_separator hc t
  | case2 a s ha ih => rw [List.cons_append, chunks_cons_of_separator ha, ih]
  | case3 a ha =>
      rw [List.singleton_append, chunks_cons_separator ha hc, chunks_cons_of_separator hc]
      rfl
  | case4 a ha b s hb ih =>
      rw [List.cons_append, List.cons_append, chunks_cons_separator ha hb, ← List.cons_append, ih]
      rfl
  | case5 a ha b s hb hnone ih => exact absurd hnone (chunks_cons_ne_nil hb s)
  | case6 a ha b s hb first more hfound ih =>
      rw [hfound] at ih ⊢
      exact chunks_cons_cons ha hb ih

/-! ## Words of a chunk -/

/-- The first word of a chunk begins where the chunk begins. -/
theorem exists_splitWords_cons (c : CodePoint) (t : Text) :
    ∃ word more, splitWords (c :: t) = (c :: word) :: more := by
  cases t with
  | nil => exact ⟨[], [], rfl⟩
  | cons d t =>
      unfold splitWords
      split
      · exact ⟨_, _, rfl⟩
      · split <;> exact ⟨_, _, rfl⟩

/-- A code point is a word by itself if a boundary follows it, and else it is put in front of
the word behind it. -/
theorem splitWords_cons_cons
    {word : Text} {more : List Text} (hrest : splitWords (d :: t) = word :: more) :
    splitWords (c :: d :: t) =
      if isBoundary c d t.head? then [c] :: word :: more else (c :: word) :: more := by
  conv_lhs => unfold splitWords
  rw [hrest]

theorem flatten_splitWords (t : Text) : (splitWords t).flatten = t := by
  induction t with
  | nil => rfl
  | cons c t ih =>
      cases t with
      | nil => rfl
      | cons d t =>
          obtain ⟨word, more, hrest⟩ := exists_splitWords_cons d t
          rw [hrest] at ih
          rw [splitWords_cons_cons hrest]
          split
          · rw [List.flatten_cons, ih, List.singleton_append]
          · rw [List.flatten_cons, List.cons_append, ← List.flatten_cons, ih]

theorem ne_nil_of_mem_splitWords {word : Text} (hmem : word ∈ splitWords t) : word ≠ [] := by
  induction t with
  | nil => cases hmem
  | cons c t ih =>
      cases t with
      | nil =>
          obtain rfl := List.mem_singleton.mp hmem
          exact List.cons_ne_nil c []
      | cons d t =>
          obtain ⟨first, more, hrest⟩ := exists_splitWords_cons d t
          rw [splitWords_cons_cons hrest] at hmem
          rw [hrest] at ih
          split at hmem
          · rcases List.mem_cons.mp hmem with rfl | hmore
            · exact List.cons_ne_nil c []
            · exact ih hmore
          · rcases List.mem_cons.mp hmem with rfl | hmore
            · exact List.cons_ne_nil c _
            · exact ih (List.mem_cons_of_mem _ hmore)

/-- What holds of neighbours without a boundary between them holds inside of words. -/
theorem isChain_of_mem_splitWords
    {R : CodePoint → CodePoint → Prop} (hR : ∀ p q after, isBoundary p q after = false → R p q)
    {word : Text} (hmem : word ∈ splitWords t) : word.IsChain R := by
  induction t generalizing word with
  | nil => cases hmem
  | cons c t ih =>
      cases t with
      | nil =>
          obtain rfl := List.mem_singleton.mp hmem
          exact .singleton c
      | cons d t =>
          obtain ⟨first, more, hrest⟩ := exists_splitWords_cons d t
          rw [splitWords_cons_cons hrest] at hmem
          rw [hrest] at ih
          split at hmem
          · rcases List.mem_cons.mp hmem with rfl | hmore
            · exact .singleton c
            · exact ih hmore
          · rename_i hboundary
            rw [Bool.not_eq_true] at hboundary
            rcases List.mem_cons.mp hmem with rfl | hmore
            · exact List.isChain_cons_cons.mpr ⟨hR c d _ hboundary, ih List.mem_cons_self⟩
            · exact ih (List.mem_cons_of_mem _ hmore)

/-! ## Words of a text -/

theorem words_eq_splitWords (ht : ∀ c ∈ t, isSeparator c = false) : words t = splitWords t := by
  cases t with
  | nil => rfl
  | cons c t =>
      rw [words, chunks_eq_singleton (List.cons_ne_nil c t) ht, List.flatMap_singleton]

theorem flatten_words (t : Text) : (words t).flatten = t.filter fun c => !isSeparator c := by
  rw [words, ← flatten_chunks]
  induction chunks t with
  | nil => rfl
  | cons chunk more ih =>
      rw [List.flatMap_cons, List.flatten_append, flatten_splitWords, ih, List.flatten_cons]

theorem ne_nil_of_mem_words {word : Text} (hmem : word ∈ words t) : word ≠ [] := by
  obtain ⟨chunk, -, hword⟩ := List.mem_flatMap.mp hmem
  exact ne_nil_of_mem_splitWords hword

theorem isSeparator_of_mem_words {word : Text} (hmem : word ∈ words t) (hc : c ∈ word) :
    isSeparator c = false := by
  have hletter := List.mem_flatten_of_mem hmem hc
  rw [flatten_words] at hletter
  simpa using (List.mem_filter.mp hletter).2

/-! ## Canonical forms -/

theorem canonical_of_separators (hs : ∀ c ∈ s, isSeparator c = true) : canonical s = [] := by
  have hchunks := chunks_append_of_separators hs []
  rw [List.append_nil] at hchunks
  rw [canonical, words, hchunks]
  rfl

theorem canonical_gap_append (hs : ∀ c ∈ s, isSeparator c = true) (t : Text) :
    canonical (s ++ t) = canonical t := by
  rw [canonical, words, chunks_append_of_separators hs]
  rfl

/-- Separators only separate. -/
theorem canonical_append_append
    (s t : Text) {gap : Text} (hfilled : gap ≠ []) (hgap : ∀ c ∈ gap, isSeparator c = true) :
    canonical (s ++ gap ++ t) = canonical s ++ canonical t := by
  obtain ⟨c, gap, rfl⟩ := List.exists_cons_of_ne_nil hfilled
  rw [List.forall_mem_cons] at hgap
  rw [List.append_assoc, List.cons_append]
  simp only [canonical, words, chunks_append_separator_cons s hgap.1,
    chunks_append_of_separators hgap.2, List.flatMap_append]

theorem canonical_append_gap (t : Text) (hs : ∀ c ∈ s, isSeparator c = true) :
    canonical (t ++ s) = canonical t := by
  cases s with
  | nil => rw [List.append_nil]
  | cons c s =>
      have happend := canonical_append_append t [] (List.cons_ne_nil c s) hs
      rwa [List.append_nil, canonical_of_separators (List.forall_mem_nil _), List.append_nil]
        at happend

end Reason
end ActorManifest
