import ActorManifest.Proofs.Json.Escape
import ActorManifest.Proofs.Json.Sorted
import ActorManifest.Proofs.Yaml.Cursor
import ActorManifest.Yaml.Token.Quoted
import Mathlib.Data.List.TakeWhile

/-!
# Quoted texts are read back

What the writer puts between quotes is read as the text that it stands for, up to the quote that
closes it.  A piece of such a text is put in front of another one, so the lemmas go from the
end of a text to its start.
-/

namespace ActorManifest
namespace Yaml

/-- The quote around a text. -/
def quote (double : Bool) : CodePoint :=
  if double then .char '"' else .char '\x27'

theorem atDocumentMark_cons
    {p : CodePoint} (hdash : p ≠ .char '-') (hdot : p ≠ .char '.') (t : Text) :
    atDocumentMark (p :: t) = false := by
  simp [atDocumentMark, Text.ofString, hdash, hdot]

/-- A code point that is no space, no tab and no line break. -/
def IsSolid (p : CodePoint) : Prop :=
  isBlank p = false ∧ isBreak p = false

theorem isSolid_quote (double : Bool) : IsSolid (quote double) := by
  cases double <;> exact ⟨by decide, by decide⟩

/-! ## Line breaks -/

variable {c : Cursor} {r : Text} {fuel n : Nat}

theorem span_isBlank_spaces
    (hrest : c.rest = Writer.spaces n ++ r) (hr : ∀ p ∈ r.head?, isBlank p = false) :
    c.span isBlank = (Writer.spaces n, c.skip n) := by
  have hspaces : ∀ p ∈ Writer.spaces n, isBlank p = true := by
    intro p hp
    rw [List.eq_of_mem_replicate hp]
    rfl
  rw [Cursor.span_of_append hrest hspaces hr, Writer.spaces, List.length_replicate]

theorem atDocumentMark_spaces (hn : 0 < n) (r : Text) :
    atDocumentMark (Writer.spaces n ++ r) = false := by
  obtain ⟨n, rfl⟩ := Nat.exists_eq_add_one_of_ne_zero (Nat.ne_of_gt hn)
  exact atDocumentMark_cons (by decide) (by decide) _

theorem foldedBreaks_spaces
    (hrest : c.rest = Writer.spaces n ++ r) (hn : 0 < n) (hr : ∀ p ∈ r.head?, IsSolid p) :
    foldedBreaks (fuel + 1) c = .ok ([], c.skip n) := by
  have hspan := span_isBlank_spaces hrest fun p hp => (hr p hp).1
  have hmark : atDocumentMark c.rest = false := by
    rw [hrest]
    exact atDocumentMark_spaces hn r
  have hafter : (c.skip n).rest = r := by
    have hskip := Cursor.rest_skip_of_eq hrest
    rwa [Writer.spaces, List.length_replicate] at hskip
  rw [foldedBreaks, hmark, if_neg Bool.false_ne_true, hspan]
  dsimp only
  cases r with
  | nil => simp only [hafter]
  | cons p r => simp only [hafter, (hr p rfl).2, Bool.false_eq_true, if_false]

theorem foldedBreaks_feed (hrest : c.rest = .char '\n' :: r) :
    foldedBreaks (fuel + 1) c =
      (foldedBreaks fuel c.next).map fun (breaks, c) => (.char '\n' :: breaks, c) := by
  have hspan : c.span isBlank = ([], c) :=
    span_isBlank_spaces (n := 0) hrest (by simp [isBlank])
  have hmark : atDocumentMark c.rest = false := by
    rw [hrest]
    exact atDocumentMark_cons (by decide) (by decide) r
  have hbreak : isBreak (.char '\n') = true := rfl
  rw [foldedBreaks, hmark, if_neg Bool.false_ne_true, hspan]
  simp only [hrest, hbreak, if_true]
  cases foldedBreaks fuel c.next <;> rfl

/-! ## Contents -/

/-- Wherever the text stands in front of the quote that closes it, it is read as a content. -/
def ReadsQuoted (double : Bool) (w t : Text) : Prop :=
  ∀ (c : Cursor) (rest : Text) (fuel : Nat), c.rest = w ++ quote double :: rest →
    rest.head? ≠ some (.char '\x27') → w.length < fuel →
    quotedFrom double fuel c = .ok (t, c.skip (w.length + 1))

namespace ReadsQuoted

variable {double : Bool} {w t : Text} {p : CodePoint}

theorem nil : ReadsQuoted double [] [] := by
  intro c rest fuel hrest hquote hfuel
  obtain ⟨fuel, rfl⟩ := Nat.exists_eq_add_one_of_ne_zero (Nat.ne_of_gt hfuel)
  rw [List.nil_append] at hrest
  cases double with
  | true =>
      simp only [quotedFrom, hrest]
      rfl
  | false =>
      simp only [quotedFrom, hrest, quote, Bool.false_eq_true, if_false, and_self, if_true,
        if_neg hquote]
      rfl

/-- A code point that means nothing else stands for itself. -/
theorem cons
    (hread : ReadsQuoted double w t) (hp : IsSolid p) (hquote : p ≠ quote double)
    (hescape : double = true → p ≠ .char '\\') : ReadsQuoted double (p :: w) (p :: t) := by
  intro c rest fuel hrest hrest' hfuel
  obtain ⟨fuel, rfl⟩ := Nat.exists_eq_add_one_of_ne_zero (Nat.ne_of_gt (Nat.zero_lt_of_lt hfuel))
  have hnext : c.next.rest = w ++ quote double :: rest := by
    rw [Cursor.rest_next, hrest]
    rfl
  have hafter := hread c.next rest fuel hnext hrest' (Nat.lt_of_succ_lt_succ hfuel)
  have hsingle : ¬(p = .char '\x27' ∧ double = false) := by
    rintro ⟨rfl, rfl⟩
    exact hquote rfl
  have hdouble : ¬(p = .char '"' ∧ double = true) := by
    rintro ⟨rfl, rfl⟩
    exact hquote rfl
  have hback : ¬(p = .char '\\' ∧ double = true) := fun h => hescape h.2 h.1
  simp only [quotedFrom, hrest, List.cons_append, if_neg hsingle, if_neg hdouble, if_neg hback,
    hp.1, hp.2, Bool.or_self, Bool.false_eq_true, if_false, hafter, bind, Except.bind]
  rfl

/-- A quote that is written twice stands for itself. -/
theorem quotePair (hread : ReadsQuoted false w t) :
    ReadsQuoted false (.char '\x27' :: .char '\x27' :: w) (.char '\x27' :: t) := by
  intro c rest fuel hrest hquote hfuel
  obtain ⟨fuel, rfl⟩ := Nat.exists_eq_add_one_of_ne_zero (Nat.ne_of_gt (Nat.zero_lt_of_lt hfuel))
  have hskip : (c.skip 2).rest = w ++ quote false :: rest := by
    rw [Cursor.rest_skip, hrest]
    rfl
  have hfuel' : w.length < fuel := by
    simp only [List.length_cons] at hfuel
    omega
  have hafter := hread (c.skip 2) rest fuel hskip hquote hfuel'
  simp only [quotedFrom, hrest, List.cons_append, and_self, if_true, List.head?_cons, hafter,
    bind, Except.bind]
  rfl

/-- An escape stands for what is read of it. -/
theorem escape
    {e x : Text} (hread : ReadsQuoted true w t) (he : e.head? = some (.char '\\'))
    (hescape : ∀ (c : Cursor) (rest : Text), c.rest = e ++ (w ++ quote true :: rest) →
      quotedEscape c = .ok (x, c.skip e.length)) :
    ReadsQuoted true (e ++ w) (x ++ t) := by
  intro c rest fuel hrest hquote hfuel
  obtain ⟨e', rfl⟩ : ∃ e', e = .char '\\' :: e' := by
    cases e with
    | nil => cases he
    | cons p e' =>
        cases he
        exact ⟨e', rfl⟩
  obtain ⟨fuel, rfl⟩ := Nat.exists_eq_add_one_of_ne_zero (Nat.ne_of_gt (Nat.zero_lt_of_lt hfuel))
  have hrest' := hrest
  rw [List.append_assoc] at hrest'
  have hfound := hescape c rest hrest'
  have hfuel' : w.length < fuel := by
    simp only [List.length_append, List.length_cons] at hfuel
    omega
  have hafter := hread _ rest fuel (Cursor.rest_skip_of_eq hrest') hquote hfuel'
  have hp : c.rest = .char '\\' :: (e' ++ w ++ quote true :: rest) := hrest
  simp only [quotedFrom, hp, hfound, hafter, bind, Except.bind, pure, Except.pure,
    Cursor.skip_skip]
  rw [List.length_append, Nat.add_assoc]
  rfl

end ReadsQuoted

/-! ## Blanks -/

variable {double : Bool} {w t : Text} {p : CodePoint}

/-- Blanks in front of something else on their line stand for themselves. -/
theorem quotedFrom_blanks
    {b : Text} (hb : ∀ p ∈ b, isBlank p = true) (hne : b ≠ []) (hrest : c.rest = b ++ p :: r)
    (hp : IsSolid p) :
    quotedFrom double (fuel + 1) c =
      (quotedFrom double fuel (c.skip b.length)).map fun (content, c) => (b ++ content, c) := by
  have hspan : c.span isBlank = (b, c.skip b.length) := by
    refine Cursor.span_of_append hrest hb ?_
    rintro q ⟨⟩
    exact hp.1
  have hspaces : quotedSpaces c = .ok (b, c.skip b.length) := by
    simp only [quotedSpaces, hspan, Cursor.rest_skip_of_eq hrest, hp.2, Bool.false_eq_true,
      if_false]
  obtain ⟨q, b, rfl⟩ := List.exists_cons_of_ne_nil hne
  have hq : isBlank q = true := hb q List.mem_cons_self
  have hsign : ∀ q : CodePoint, isBlank q = true →
      q ≠ .char '\x27' ∧ q ≠ .char '"' ∧ q ≠ .char '\\' := by
    intro q hq
    rw [isBlank, Bool.or_eq_true, beq_iff_eq, beq_iff_eq] at hq
    rcases hq with rfl | rfl <;> decide
  obtain ⟨hsingle, hdouble, hback⟩ := hsign q hq
  simp only [quotedFrom, hrest, List.cons_append, hsingle, hdouble, hback, hq, hspaces,
    false_and, if_false, Bool.true_or, if_true, bind, Except.bind]
  rfl

/-- The blanks at the start of a text are followed by something else on their line. -/
def StaysInLine (w : Text) : Prop :=
  ∀ p ∈ (w.dropWhile isBlank).head?, isBreak p = false

theorem staysInLine_of_isSolid (hw : ∀ p ∈ w.head?, IsSolid p) : StaysInLine w := by
  cases w with
  | nil => exact fun p hp => nomatch hp
  | cons p w =>
      intro q hq
      rw [List.dropWhile_cons_of_neg (by simp [(hw p rfl).1])] at hq
      exact (hw q hq).2

/-- In front of a quote the blanks at the start of a text lead to a sign on their line. -/
theorem StaysInLine.exists_blanks (double : Bool) (hw : StaysInLine w) (rest : Text) :
    ∃ b p r, w ++ quote double :: rest = b ++ p :: r ∧ (∀ q ∈ b, isBlank q = true) ∧
      IsSolid p := by
  have hsplit : w = w.takeWhile isBlank ++ w.dropWhile isBlank :=
    List.takeWhile_append_dropWhile.symm
  have hblank : ∀ q ∈ w.takeWhile isBlank, isBlank q = true :=
    fun q hq => List.mem_takeWhile_imp hq
  cases hdrop : w.dropWhile isBlank with
  | nil =>
      rw [hdrop, List.append_nil] at hsplit
      exact ⟨w, quote double, rest, rfl, hsplit ▸ hblank, isSolid_quote double⟩
  | cons p r =>
      refine ⟨w.takeWhile isBlank, p, r ++ quote double :: rest, ?_, hblank, ?_, ?_⟩
      · rw [hdrop] at hsplit
        conv => lhs; rw [hsplit]
        rw [List.append_assoc, List.cons_append]
      · have hhead := List.head?_dropWhile_not isBlank w
        rw [hdrop] at hhead
        simpa using hhead
      · exact hw p (by rw [hdrop]; rfl)

/-- A space in front of something else on its line stands for itself.  The blanks behind it are
read together with it. -/
theorem ReadsQuoted.space (hread : ReadsQuoted double w t) (hw : StaysInLine w) :
    ReadsQuoted double (.char ' ' :: w) (.char ' ' :: t) := by
  intro c rest fuel hrest hquote hfuel
  obtain ⟨fuel, rfl⟩ := Nat.exists_eq_add_one_of_ne_zero (Nat.ne_of_gt (Nat.zero_lt_of_lt hfuel))
  have hfuel' : w.length < fuel := Nat.lt_of_succ_lt_succ hfuel
  have hnext : c.next.rest = w ++ quote double :: rest := by
    rw [Cursor.rest_next, hrest]
    rfl
  obtain ⟨b, p, r, hsplit, hb, hp⟩ := hw.exists_blanks double rest
  rw [hsplit] at hnext
  have hblanks : ∀ q ∈ .char ' ' :: b, isBlank q = true :=
    List.forall_mem_cons.mpr ⟨rfl, hb⟩
  have hrest' : c.rest = (.char ' ' :: b) ++ p :: r := by
    rw [hrest, List.cons_append, hsplit]
    rfl
  rw [quotedFrom_blanks hblanks (List.cons_ne_nil _ _) hrest' hp]
  by_cases hempty : b = []
  · subst hempty
    have hafter := hread c.next rest fuel (hnext.trans hsplit.symm) hquote hfuel'
    rw [show c.skip [CodePoint.char ' '].length = c.next from rfl, hafter]
    rfl
  · have hafter := hread c.next rest (fuel + 1) (hnext.trans hsplit.symm) hquote (by omega)
    rw [quotedFrom_blanks hb hempty hnext hp, Cursor.next_skip] at hafter
    rw [List.length_cons]
    cases hcontent : quotedFrom double fuel (c.skip (b.length + 1)) with
    | error fault =>
        rw [hcontent] at hafter
        cases hafter
    | ok found =>
        rw [hcontent] at hafter
        simp only [Except.map, Except.ok.injEq, Prod.mk.injEq] at hafter ⊢
        rw [List.cons_append, hafter.1, hafter.2]
        exact ⟨rfl, rfl⟩

/-! ## Broken lines -/

theorem quotedFrom_feed (hrest : c.rest = .char '\n' :: r) :
    quotedFrom double (fuel + 1) c =
      (do
        let (breaks, c) ← foldedBreaks (c.rest.length + 1) c.next
        let (content, c) ← quotedFrom double fuel c
        return (foldedText (.char '\n') breaks ++ content, c)) := by
  have hspan : c.span isBlank = ([], c) :=
    span_isBlank_spaces (n := 0) hrest (by simp [isBlank])
  have hspaces : quotedSpaces c = (do
      let (breaks, c) ← foldedBreaks (c.rest.length + 1) c.next
      return (foldedText (.char '\n') breaks, c)) := by
    rw [quotedSpaces, hspan]
    simp only [hrest, show isBreak (.char '\n') = true from rfl, if_true]
  have hbreak : (isBlank (.char '\n') || isBreak (.char '\n')) = true := rfl
  have hquote : CodePoint.char '\n' ≠ .char '\x27' := by decide
  have hdouble : CodePoint.char '\n' ≠ .char '"' := by decide
  have hback : CodePoint.char '\n' ≠ .char '\\' := by decide
  rw [quotedFrom]
  simp only [hrest, hquote, hdouble, hback, false_and, if_false, hbreak, if_true, hspaces,
    bind_assoc, pure_bind]

/-- Behind a line break and wherever the text stands in front of the quote that closes it, its
line breaks and what comes behind them are read as a content. -/
def ReadsFolded (double : Bool) (u t : Text) : Prop :=
  ∀ (c : Cursor) (rest : Text) (fuel : Nat), c.rest = u ++ quote double :: rest →
    rest.head? ≠ some (.char '\x27') → u.length < fuel →
    ∃ breaks content k, t = breaks ++ content ∧ foldedBreaks fuel c = .ok (breaks, c.skip k) ∧
      ∀ fuel, u.length < fuel →
        quotedFrom double fuel (c.skip k) = .ok (content, c.skip (u.length + 1))

theorem head_isSolid_append_quote (hw : ∀ p ∈ w.head?, IsSolid p) (rest : Text) :
    ∀ p ∈ (w ++ quote double :: rest).head?, IsSolid p := by
  cases w with
  | nil =>
      rintro p ⟨⟩
      exact isSolid_quote double
  | cons q w => exact hw

theorem ReadsQuoted.folded
    (hread : ReadsQuoted double w t) (hn : 0 < n) (hw : ∀ p ∈ w.head?, IsSolid p) :
    ReadsFolded double (Writer.spaces n ++ w) t := by
  intro c rest fuel hrest hquote hfuel
  obtain ⟨fuel, rfl⟩ := Nat.exists_eq_add_one_of_ne_zero (Nat.ne_of_gt (Nat.zero_lt_of_lt hfuel))
  rw [List.append_assoc] at hrest
  have hlength : (Writer.spaces n).length = n := List.length_replicate
  refine ⟨[], t, n, rfl, ?_, ?_⟩
  · exact foldedBreaks_spaces hrest hn (head_isSolid_append_quote hw rest)
  · intro fuel hfuel
    rw [List.length_append, hlength] at hfuel ⊢
    have hskip : (c.skip n).rest = w ++ quote double :: rest :=
      hlength ▸ Cursor.rest_skip_of_eq hrest
    rw [hread _ rest fuel hskip hquote (by omega), Cursor.skip_skip, Nat.add_assoc]

/-- A line break behind the first stands for itself. -/
theorem ReadsFolded.feed {u : Text} (hfold : ReadsFolded double u t) :
    ReadsFolded double (.char '\n' :: u) (.char '\n' :: t) := by
  intro c rest fuel hrest hquote hfuel
  obtain ⟨fuel, rfl⟩ := Nat.exists_eq_add_one_of_ne_zero (Nat.ne_of_gt (Nat.zero_lt_of_lt hfuel))
  have hnext : c.next.rest = u ++ quote double :: rest := by
    rw [Cursor.rest_next, hrest]
    rfl
  obtain ⟨breaks, content, k, rfl, hbreaks, hcontent⟩ :=
    hfold c.next rest fuel hnext hquote (Nat.lt_of_succ_lt_succ hfuel)
  refine ⟨.char '\n' :: breaks, content, k + 1, rfl, ?_, ?_⟩
  · rw [foldedBreaks_feed hrest, hbreaks]
    rfl
  · intro fuel hfuel
    exact hcontent fuel (Nat.lt_of_succ_lt hfuel)

/-- A line break between other things stands for a space. -/
theorem ReadsQuoted.brokenSpace
    (hread : ReadsQuoted double w t) (hn : 0 < n) (hw : ∀ p ∈ w.head?, IsSolid p) :
    ReadsQuoted double (Writer.newLine n ++ w) (.char ' ' :: t) := by
  intro c rest fuel hrest hquote hfuel
  obtain ⟨fuel, rfl⟩ := Nat.exists_eq_add_one_of_ne_zero (Nat.ne_of_gt (Nat.zero_lt_of_lt hfuel))
  have hlength : (Writer.spaces n).length = n := List.length_replicate
  have hrest' : c.rest = .char '\n' :: (Writer.spaces n ++ (w ++ quote double :: rest)) := by
    rw [hrest, List.append_assoc]
    rfl
  have hnext : c.next.rest = Writer.spaces n ++ (w ++ quote double :: rest) := by
    rw [Cursor.rest_next, hrest']
    rfl
  have hskip : (c.next.skip n).rest = w ++ quote double :: rest :=
    hlength ▸ Cursor.rest_skip_of_eq hnext
  have hfuel' : w.length < fuel := by
    simp only [Writer.newLine, List.length_append, List.length_cons] at hfuel
    omega
  rw [quotedFrom_feed hrest',
    foldedBreaks_spaces hnext hn (head_isSolid_append_quote hw rest)]
  have hafter := hread _ rest fuel hskip hquote hfuel'
  have htotal : (Writer.newLine n ++ w).length + 1 = n + 1 + (w.length + 1) := by
    simp only [Writer.newLine, List.length_append, List.length_cons, hlength]
    omega
  rw [htotal, ← Cursor.skip_skip]
  simp only [bind, Except.bind, hafter]
  rfl

/-- Of several line breaks in a row the first does not count. -/
theorem ReadsFolded.feeds {u : Text} (hfold : ReadsFolded double u t) :
    ReadsQuoted double (.char '\n' :: .char '\n' :: u) (.char '\n' :: t) := by
  intro c rest fuel hrest hquote hfuel
  obtain ⟨fuel, rfl⟩ := Nat.exists_eq_add_one_of_ne_zero (Nat.ne_of_gt (Nat.zero_lt_of_lt hfuel))
  have hnext : c.next.rest = .char '\n' :: (u ++ quote double :: rest) := by
    rw [Cursor.rest_next, hrest]
    rfl
  have hnext' : c.next.next.rest = u ++ quote double :: rest := by
    rw [Cursor.rest_next, hnext]
    rfl
  simp only [List.length_cons] at hfuel ⊢
  have hlong : u.length < c.rest.length := by
    rw [hrest]
    simp only [List.length_append, List.length_cons]
    omega
  obtain ⟨breaks, content, k, rfl, hbreaks, hcontent⟩ :=
    hfold c.next.next rest c.rest.length hnext' hquote hlong
  have hafter := hcontent fuel (by omega)
  rw [quotedFrom_feed hrest, foldedBreaks_feed hnext, hbreaks]
  simp only [bind, Except.bind, Except.map, hafter]
  rfl

/-! ## Single quotes -/

namespace Writer

theorem hasPair_cons (f g : CodePoint → Bool) (c : CodePoint) (t : Text) :
    hasPair f g (c :: t) = (f c && t.head?.any g || hasPair f g t) := by
  cases t <;> simp [hasPair]

theorem isSolid_of_isSimple
    (hp : isSimple p = true) (hspace : isSpace p = false) (hfeed : isFeed p = false) :
    IsSolid p := by
  have hother : ∀ q : CodePoint, p = q → isSimple q = true := by
    rintro q rfl
    exact hp
  have htab : p ≠ .char '\t' := fun heq => absurd (hother _ heq) (by decide)
  have hline : p ≠ lineSeparator := fun heq => absurd (hother _ heq) (by decide)
  have hparagraph : p ≠ paragraphSeparator := fun heq => absurd (hother _ heq) (by decide)
  rw [isSpace, beq_eq_false_iff_ne] at hspace
  rw [isFeed, beq_eq_false_iff_ne] at hfeed
  constructor
  · simp [isBlank, hspace, htab]
  · simp [isBreak, hfeed, hline, hparagraph]

/-- What is written in front of a text behind a line feed. -/
def margin (indent : Nat) (t : Text) : Text :=
  if t.head?.any isFeed then [] else spaces indent

variable {split first afterSpace afterFeed : Bool} {indent column : Nat}

theorem singleFrom_feed (hp : isFeed p = true) :
    singleFrom split indent column first afterSpace afterFeed (p :: t) =
      (if afterFeed then [p] else [p, p]) ++
        (margin indent t ++ singleFrom split indent indent false false true t) := by
  rw [singleFrom, if_pos hp, List.append_assoc]
  rfl

theorem head_singleFrom (hspace : isSpace p = false) (hfeed : isFeed p = false) :
    (singleFrom split indent column first afterSpace afterFeed (p :: t)).head? = some p := by
  simp only [singleFrom, hspace, hfeed, Bool.false_eq_true, if_false]
  split <;> rfl

/-- The text is read back from between single quotes, where no feed may come first behind a space
or another feed; what begins with a space stays in its line.  Behind a feed the text is read
together with the feeds at its start. -/
structure ReadsSingle (split : Bool) (indent : Nat) (t : Text) : Prop where
  quoted : ∀ column first afterSpace afterFeed,
    (afterSpace = true ∨ afterFeed = true → t.head?.any isFeed = false) →
      ReadsQuoted false (singleFrom split indent column first afterSpace afterFeed t) t
  stays : ∀ column first afterFeed, t.head?.any isFeed = false →
    StaysInLine (singleFrom split indent column first true afterFeed t)
  folded : t.head?.any isSpace = false →
    ReadsFolded false (margin indent t ++ singleFrom split indent indent false false true t) t

theorem readsSingle_nil (hindent : 0 < indent) : ReadsSingle split indent [] where
  quoted := fun _ _ _ _ _ => .nil
  stays := fun _ _ _ _ => nofun
  folded := fun _ => ReadsQuoted.nil.folded hindent nofun

/-- The feeds at the start of a text are read together. -/
theorem ReadsSingle.feed
    (ht : ReadsSingle split indent t) (hp : isFeed p = true) (hnext : t.head?.any isSpace = false) :
    ReadsSingle split indent (p :: t) := by
  have hhead : (p :: t).head?.any isFeed = true := by simpa using hp
  obtain rfl : p = .char '\n' := beq_iff_eq.mp hp
  refine ⟨fun column first afterSpace afterFeed hfirst => ?_, ?_, fun _ => ?_⟩
  -- A feed is written twice where it comes first, since the first break of a row is not read.
  · obtain ⟨rfl, rfl⟩ : afterSpace = false ∧ afterFeed = false := by
      rw [hhead] at hfirst
      cases afterSpace <;> cases afterFeed <;> simp_all
    rw [singleFrom_feed hp]
    exact (ht.folded hnext).feeds
  · intro _ _ _ hnone
    rw [hhead] at hnone
    cases hnone
  · rw [singleFrom_feed hp]
    exact (ht.folded hnext).feed

theorem ReadsSingle.space
    (ht : ReadsSingle split indent t) (hindent : 0 < indent) (hp : isSpace p = true)
    (hsimple : ∀ q ∈ t, isSimple q = true) (hnext : t.head?.any isFeed = false) :
    ReadsSingle split indent (p :: t) := by
  obtain rfl : p = .char ' ' := beq_iff_eq.mp hp
  refine ⟨fun column first afterSpace afterFeed _ => ?_, fun column first afterFeed _ => ?_, nofun⟩
  · rw [singleFrom, if_neg (by decide), if_pos hp]
    split
    · -- The line is broken in front of a sign that is neither a space nor a feed.
      rename_i hbreaks
      simp only [breaksHere, Bool.and_eq_true, Bool.not_eq_true'] at hbreaks
      obtain ⟨⟨⟨-, hsingle⟩, -⟩, hne⟩ := hbreaks
      obtain ⟨q, t, rfl⟩ := List.exists_cons_of_ne_nil (List.isEmpty_eq_false_iff.mp hne)
      have hspace : isSpace q = false := by simpa using hsingle
      have hfeed : isFeed q = false := by simpa using hnext
      refine (ht.quoted _ _ _ _ fun _ => hnext).brokenSpace hindent ?_
      rw [head_singleFrom hspace hfeed]
      rintro _ ⟨⟩
      exact isSolid_of_isSimple (hsimple q List.mem_cons_self) hspace hfeed
    · exact (ht.quoted _ _ _ _ fun _ => hnext).space (ht.stays _ _ _ hnext)
  · have hbreaks : breaksHere split true column t = false := by simp [breaksHere]
    rw [singleFrom, if_neg (by decide), if_pos hp, hbreaks, if_neg (by simp)]
    exact ht.stays (column + 1) false false hnext

theorem ReadsSingle.sign
    (ht : ReadsSingle split indent t) (hindent : 0 < indent) (hsimple : isSimple p = true)
    (hspace : isSpace p = false) (hfeed : isFeed p = false) :
    ReadsSingle split indent (p :: t) := by
  have hsolid : IsSolid p := isSolid_of_isSimple hsimple hspace hfeed
  have hhead : ∀ column first afterSpace afterFeed,
      ∀ q ∈ (singleFrom split indent column first afterSpace afterFeed (p :: t)).head?,
        IsSolid q := by
    intro column first afterSpace afterFeed
    rw [head_singleFrom hspace hfeed]
    rintro _ ⟨⟩
    exact hsolid
  have hquoted : ∀ column first afterSpace afterFeed,
      ReadsQuoted false (singleFrom split indent column first afterSpace afterFeed (p :: t))
        (p :: t) := by
    intro column first afterSpace afterFeed
    rw [singleFrom, if_neg (by simp [hfeed]), if_neg (by simp [hspace])]
    split
    · rename_i hquote
      subst hquote
      exact (ht.quoted _ _ _ _ (by simp)).quotePair
    · rename_i hquote
      exact (ht.quoted _ _ _ _ (by simp)).cons hsolid hquote nofun
  refine ⟨fun _ _ _ _ _ => hquoted _ _ _ _, fun _ _ _ _ => staysInLine_of_isSolid (hhead _ _ _ _),
    fun _ => ?_⟩
  have hmargin : margin indent (p :: t) = spaces indent := by
    simp [margin, hfeed]
  rw [hmargin]
  exact (hquoted _ _ _ _).folded hindent (hhead _ _ _ _)

/-- A text that may be written between single quotes is read back from there. -/
theorem readsSingle_of_isSimple
    (hindent : 0 < indent) (hsimple : ∀ p ∈ t, isSimple p = true)
    (hfeedSpace : hasPair isFeed isSpace t = false)
    (hspaceFeed : hasPair isSpace isFeed t = false) : ReadsSingle split indent t := by
  induction t with
  | nil => exact readsSingle_nil hindent
  | cons p t ih =>
      rw [hasPair_cons, Bool.or_eq_false_iff] at hfeedSpace hspaceFeed
      obtain ⟨hp, hrest⟩ := List.forall_mem_cons.mp hsimple
      have ht := ih hrest hfeedSpace.2 hspaceFeed.2
      by_cases hfeed : isFeed p = true
      · exact ht.feed hfeed (by simpa [hfeed] using hfeedSpace.1)
      · by_cases hspace : isSpace p = true
        · exact ht.space hindent hspace hrest (by simpa [hspace] using hspaceFeed.1)
        · exact ht.sign hindent hp (by simpa using hspace) (by simpa using hfeed)

end Writer

/-! ## Escapes -/

theorem quotedEscape_sign
    {s : CodePoint} (hrest : c.rest = .char '\\' :: s :: r) (hs : signEscape? s = some p) :
    quotedEscape c = .ok ([p], c.skip 2) := by
  simp only [quotedEscape, hrest, List.drop_succ_cons, List.drop_zero, hs]

theorem quotedEscape_number
    {s : CodePoint} {count : Nat} {digits : Text} {values : List Nat}
    (hrest : c.rest = .char '\\' :: s :: (digits ++ r)) (hs : signEscape? s = none)
    (hcount : numberEscape? s = some count) (hlength : digits.length = count)
    (hvalues : digits.mapM CodePoint.hexValue? = some values) (hall : values.length = count)
    (hp : CodePoint.ofNat? (values.foldl (fun n d => n * 16 + d) 0) = some p) :
    quotedEscape c = .ok ([p], c.skip (2 + count)) := by
  have htake : (digits ++ r).take count = digits := by
    rw [← hlength, List.take_left]
  simp only [quotedEscape, hrest, List.drop_succ_cons, List.drop_zero, hs, hcount, htake,
    hvalues, hall, if_true, escapedNumber, hp, bind, Except.bind]
  rfl

theorem signEscape?_of_signEscape?
    {sign : Char} (hsign : Writer.signEscape? p = some sign) :
    signEscape? (.char sign) = some p := by
  unfold Writer.signEscape? at hsign
  split at hsign
  case h_16 => cases hsign
  all_goals
    rename_i hnumber
    cases hsign
    refine congrArg some (CodePoint.toNat_inj ?_)
    rw [hnumber]
    rfl

/-- A hexadecimal digit as the writer has it. -/
def capitalDigit (d : Nat) : CodePoint :=
  .char (Nat.digitChar d).toUpper

theorem hexValue?_capitalDigit : ∀ d < 16, (capitalDigit d).hexValue? = some d := by
  decide

/-- A number that fits is written with as many hexadecimal digits as asked for, and they are
read as the number. -/
theorem exists_values_of_hexDigits {count m : Nat} (hm : m < 16 ^ (count + 1)) :
    ∃ values, (Writer.hexDigits (count + 1) m).length = count + 1 ∧
      (Writer.hexDigits (count + 1) m).mapM CodePoint.hexValue? = some values ∧
      values.length = count + 1 ∧ values.foldl (fun n d => n * 16 + d) 0 = m := by
  induction count generalizing m with
  | zero =>
      have hm : m < 16 := hm
      refine ⟨[m], ?_, ?_, rfl, ?_⟩
      · rw [Writer.hexDigits, Text.ofNatHex_one hm]
        rfl
      · have hdigit : Writer.hexDigits 1 m = [capitalDigit m] := by
          rw [Writer.hexDigits, Text.ofNatHex_one hm]
          rfl
        rw [hdigit, List.mapM_cons, hexValue?_capitalDigit m hm]
        rfl
      · simp
  | succ count ih =>
      have hlast : m % 16 < 16 := Nat.mod_lt m (by decide)
      have hfits : m / 16 < 16 ^ (count + 1) := by
        rw [Nat.pow_succ] at hm
        omega
      obtain ⟨values, hlength, hvalues, hall, hvalue⟩ := ih hfits
      have hdigits : Writer.hexDigits (count + 1 + 1) m =
          Writer.hexDigits (count + 1) (m / 16) ++ [capitalDigit (m % 16)] := by
        rw [Writer.hexDigits, Text.ofNatHex_succ (Nat.succ_pos count), List.map_append]
        rfl
      refine ⟨values ++ [m % 16], ?_, ?_, ?_, ?_⟩
      · rw [hdigits, List.length_append, hlength]
        rfl
      · rw [hdigits, List.mapM_append, hvalues, List.mapM_cons, hexValue?_capitalDigit _ hlast]
        rfl
      · rw [List.length_append, hall]
        rfl
      · rw [List.foldl_append, hvalue]
        simp only [List.foldl_cons, List.foldl_nil]
        omega

theorem toNat_lt (p : CodePoint) : p.toNat < 0x110000 := by
  cases p with
  | char c =>
      have hvalid := Json.toNat_lt_or_lt c
      rw [CodePoint.toNat_char]
      omega
  | surrogate offset =>
      have hoffset := offset.isLt
      simp only [CodePoint.toNat]
      omega

/-- The letter of an escape by its number, and one less than how many digits follow it. -/
inductive IsNumberEscape : Char → Nat → Prop
  | octet : IsNumberEscape 'x' 1
  | short : IsNumberEscape 'u' 3
  | long : IsNumberEscape 'U' 7

/-- An escape is one sign long, or it is the number of its code point. -/
theorem escape_cases {e : Text} (he : Writer.escape? p = some e) :
    (∃ sign, Writer.signEscape? p = some sign ∧ e = [.char '\\', .char sign]) ∨
      ∃ letter count, IsNumberEscape letter count ∧ p.toNat < 16 ^ (count + 1) ∧
        e = .char '\\' :: .char letter :: Writer.hexDigits (count + 1) p.toNat := by
  unfold Writer.escape? at he
  cases hsign : Writer.signEscape? p with
  | some sign =>
      rw [hsign] at he
      cases he
      exact .inl ⟨sign, rfl, rfl⟩
  | none =>
      rw [hsign] at he
      dsimp only at he
      split at he
      · cases he
      · refine .inr ?_
        split at he
        · rename_i hoctet
          cases he
          exact ⟨'x', 1, .octet, by omega, by simp [Text.concat, Text.ofString]⟩
        · split at he
          · rename_i hshort
            cases he
            exact ⟨'u', 3, .short, by omega, by simp [Text.concat, Text.ofString]⟩
          · have hlong := toNat_lt p
            cases he
            exact ⟨'U', 7, .long, by omega, by simp [Text.concat, Text.ofString]⟩

/-- The escape of a code point is read as that code point. -/
theorem quotedEscape_escape
    {e : Text} (he : Writer.escape? p = some e) (hrest : c.rest = e ++ r) :
    quotedEscape c = .ok ([p], c.skip e.length) := by
  rcases escape_cases he with ⟨sign, hsign, rfl⟩ | ⟨letter, count, hletter, hp, rfl⟩
  · exact quotedEscape_sign hrest (signEscape?_of_signEscape? hsign)
  · obtain ⟨values, hlength, hvalues, hall, hvalue⟩ := exists_values_of_hexDigits hp
    have hsign : signEscape? (.char letter) = none := by
      cases hletter <;> rfl
    have hcount : numberEscape? (.char letter) = some (count + 1) := by
      cases hletter <;> rfl
    rw [List.length_cons, List.length_cons, hlength, Nat.add_assoc, Nat.add_comm _ (1 + 1)]
    refine quotedEscape_number hrest hsign hcount hlength hvalues hall ?_
    rw [hvalue, CodePoint.ofNat?_toNat]

theorem head_escape {e : Text} (he : Writer.escape? p = some e) :
    e.head? = some (.char '\\') := by
  rcases escape_cases he with ⟨sign, -, rfl⟩ | ⟨letter, count, -, -, rfl⟩ <;> rfl

/-- A line break behind a backslash, and the spaces behind it, stand for nothing. -/
theorem ReadsQuoted.brokenLine
    (hread : ReadsQuoted true w t) (hn : 0 < n) (hw : ∀ p ∈ w.head?, IsSolid p) :
    ReadsQuoted true (.char '\\' :: Writer.newLine n ++ w) t := by
  refine hread.escape (e := .char '\\' :: Writer.newLine n) (x := []) rfl ?_
  intro c rest hrest
  have hskip : (c.skip 2).rest = Writer.spaces n ++ (w ++ quote true :: rest) := by
    rw [Cursor.rest_skip, hrest]
    rfl
  have hbreaks : foldedBreaks (c.rest.length + 1) (c.skip 2) = .ok ([], (c.skip 2).skip n) :=
    foldedBreaks_spaces hskip hn (head_isSolid_append_quote hw rest)
  have hdrop : c.rest.drop 1 =
      .char '\n' :: (Writer.spaces n ++ (w ++ quote true :: rest)) := by
    rw [hrest]
    rfl
  have hlength : (CodePoint.char '\\' :: Writer.newLine n).length = 2 + n := by
    simp only [Writer.newLine, Writer.spaces, List.length_cons, List.length_replicate]
    omega
  rw [quotedEscape, hdrop]
  simp only [show signEscape? (.char '\n') = none from rfl,
    show numberEscape? (.char '\n') = none from rfl,
    show isBreak (.char '\n') = true from rfl, if_true, hbreaks, Cursor.skip_skip, hlength]

/-- A space behind a backslash stands for itself. -/
theorem ReadsQuoted.escapedSpace (hread : ReadsQuoted true w t) :
    ReadsQuoted true (.char '\\' :: .char ' ' :: w) (.char ' ' :: t) :=
  hread.escape (e := [.char '\\', .char ' ']) (x := [.char ' ']) rfl
    fun _ _ hrest => quotedEscape_sign hrest rfl

/-! ## Double quotes -/

namespace Writer

variable {split first afterEscape : Bool} {indent column : Nat}

theorem isSolid_backslash : IsSolid (.char '\\') :=
  ⟨by decide, by decide⟩

/-- A code point without an escape is printable. -/
theorem isSolid_of_escape?_eq_none
    (hescape : escape? p = none) (hspace : isSpace p = false) :
    IsSolid p ∧ p ≠ quote true ∧ p ≠ .char '\\' := by
  have hne : ∀ q : CodePoint, (escape? q).isSome = true → p ≠ q := by
    rintro q hq rfl
    rw [hescape] at hq
    cases hq
  rw [isSpace, beq_eq_false_iff_ne] at hspace
  have htab := hne (.char '\t') (by decide)
  have hfeed := hne (.char '\n') (by decide)
  have hline := hne lineSeparator (by decide)
  have hparagraph := hne paragraphSeparator (by decide)
  refine ⟨⟨?_, ?_⟩, hne _ (by decide), hne _ (by decide)⟩
  · simp [isBlank, hspace, htab]
  · simp [isBreak, hfeed, hline, hparagraph]

theorem head_doubleFrom (ht : t.head?.any isSpace = false) :
    ∀ q ∈ (doubleFrom split indent column first afterEscape t).head?, IsSolid q := by
  cases t with
  | nil => exact nofun
  | cons p t =>
      have hspace : isSpace p = false := by
        simpa using ht
      have hbroken : (brokenLine indent (some p)).1.head? = some (.char '\\') := by
        simp only [brokenLine, Option.any_some, hspace]
        rfl
      rw [doubleFrom]
      cases hescape : escape? p with
      | some e =>
          obtain ⟨e, rfl⟩ : ∃ e', e = .char '\\' :: e' := by
            have hhead := head_escape hescape
            cases e with
            | nil => cases hhead
            | cons q e =>
                cases hhead
                exact ⟨e, rfl⟩
          dsimp only
          split
          · rintro q ⟨⟩
            exact isSolid_backslash
          · rintro q ⟨⟩
            exact isSolid_backslash
      | none =>
          dsimp only
          split
          · rw [List.head?_append, hbroken]
            rintro q ⟨⟩
            exact isSolid_backslash
          · rintro q ⟨⟩
            exact (isSolid_of_escape?_eq_none hescape hspace).1

/-- The text is read back from between double quotes, also behind a backslash if it begins with a
space and the line is not too long; what begins with a space stays in its line. -/
structure ReadsDouble (split : Bool) (indent : Nat) (t : Text) : Prop where
  quoted : ∀ column first afterEscape,
    ReadsQuoted true (doubleFrom split indent column first afterEscape t) t
  stays : ∀ column first afterEscape,
    StaysInLine (doubleFrom split indent column first afterEscape t)
  escaped : ∀ column first afterEscape, t.head?.any isSpace = true → column ≤ width →
    ReadsQuoted true (.char '\\' :: doubleFrom split indent column first afterEscape t) t

theorem head_isSolid_backslash : ∀ q ∈ (CodePoint.char '\\' :: w).head?, IsSolid q := by
  rintro q ⟨⟩
  exact isSolid_backslash

/-- The text is read behind a broken line, whether or not a space comes first. -/
theorem ReadsDouble.line
    (ht : ReadsDouble split indent t) (hindent : 0 < indent) (hwidth : indent < width)
    (afterEscape : Bool) :
    ReadsQuoted true ((brokenLine indent t.head?).1 ++
      doubleFrom split indent (brokenLine indent t.head?).2 false afterEscape t) t := by
  by_cases hspace : t.head?.any isSpace = true
  -- The spaces of a new line do not count, so a space of the text stands behind a backslash there.
  · have hread := ht.escaped (indent + 1) false afterEscape hspace hwidth
    have hbroken := hread.brokenLine hindent head_isSolid_backslash
    simpa [brokenLine, hspace] using hbroken
  · rw [Bool.not_eq_true] at hspace
    have hbroken := (ht.quoted indent false afterEscape).brokenLine hindent (head_doubleFrom hspace)
    simpa [brokenLine, hspace] using hbroken

theorem ReadsDouble.escape {e : Text}
    (ht : ReadsDouble split indent t) (hindent : 0 < indent) (hwidth : indent < width)
    (he : escape? p = some e) : ReadsDouble split indent (p :: t) := by
  have hspace : isSpace p = false := by
    rw [isSpace, beq_eq_false_iff_ne]
    rintro rfl
    cases he
  have hread : ∀ v w : Text, ReadsQuoted true (v ++ w) t →
      ReadsQuoted true (e ++ v ++ w) (p :: t) := by
    intro v w hread
    rw [List.append_assoc]
    exact hread.escape (head_escape he) fun _ _ hrest => quotedEscape_escape he hrest
  refine ⟨fun column first afterEscape => ?_, fun column first afterEscape => ?_, by simp [hspace]⟩
  · rw [doubleFrom, he]
    dsimp only
    split
    · exact hread _ _ (ht.line hindent hwidth true)
    · rw [← List.append_nil e]
      exact hread [] _ (ht.quoted _ _ _)
  · exact staysInLine_of_isSolid (head_doubleFrom (by simpa using hspace))

theorem ReadsDouble.space
    (ht : ReadsDouble split indent t) (hindent : 0 < indent) (hp : isSpace p = true) :
    ReadsDouble split indent (p :: t) := by
  obtain rfl : p = .char ' ' := beq_iff_eq.mp hp
  have hform : ∀ column first afterEscape,
      doubleFrom split indent column first afterEscape (.char ' ' :: t) =
          .char '\\' :: newLine indent ++
            .char '\\' :: .char ' ' :: doubleFrom split indent (indent + 2) false false t ∧
        width < column ∨
      doubleFrom split indent column first afterEscape (.char ' ' :: t) =
        .char ' ' :: doubleFrom split indent (column + 1) false false t := by
    intro column first afterEscape
    rw [doubleFrom, show escape? (.char ' ') = none from by decide]
    dsimp only
    split
    · rename_i hbreaks
      simp only [Bool.and_eq_true, decide_eq_true_eq] at hbreaks
      exact .inl ⟨by simp [brokenLine, hp], hbreaks.2⟩
    · exact .inr rfl
  refine ⟨fun column first afterEscape => ?_, fun column first afterEscape => ?_,
    fun column first afterEscape _ hcolumn => ?_⟩
  · rcases hform column first afterEscape with ⟨hbroken, -⟩ | hkept
    · rw [hbroken]
      exact (ht.quoted _ _ _).escapedSpace.brokenLine hindent head_isSolid_backslash
    · rw [hkept]
      exact (ht.quoted _ _ _).space (ht.stays _ _ _)
  · rcases hform column first afterEscape with ⟨hbroken, -⟩ | hkept
    · rw [hbroken]
      exact staysInLine_of_isSolid head_isSolid_backslash
    · rw [hkept]
      exact ht.stays (column + 1) false false
  -- A second backslash would stand behind the first, but only a longer line is broken here.
  · rcases hform column first afterEscape with ⟨-, hlong⟩ | hkept
    · omega
    · rw [hkept]
      exact (ht.quoted _ _ _).escapedSpace

theorem ReadsDouble.sign
    (ht : ReadsDouble split indent t) (hindent : 0 < indent) (hescape : escape? p = none)
    (hspace : isSpace p = false) : ReadsDouble split indent (p :: t) := by
  obtain ⟨hsolid, hquote, hback⟩ := isSolid_of_escape?_eq_none hescape hspace
  have hread : ∀ column,
      ReadsQuoted true (p :: doubleFrom split indent column false false t) (p :: t) :=
    fun column => (ht.quoted column false false).cons hsolid hquote fun _ => hback
  refine ⟨fun column first afterEscape => ?_, fun column first afterEscape => ?_, by simp [hspace]⟩
  · rw [doubleFrom, hescape]
    dsimp only
    split
    · have hbroken := (hread (indent + 1)).brokenLine hindent (by
        rintro q ⟨⟩
        exact hsolid)
      simpa [brokenLine, hspace] using hbroken
    · exact hread (column + 1)
  · exact staysInLine_of_isSolid (head_doubleFrom (by simpa using hspace))

/-- A text is read back from between double quotes. -/
theorem readsDouble (split : Bool) (hindent : 0 < indent) (hwidth : indent < width) (t : Text) :
    ReadsDouble split indent t := by
  -- The column and what came before vary along the text, so all three parts hold for any of them.
  induction t with
  | nil => exact ⟨fun _ _ _ => .nil, fun _ _ _ => nofun, fun _ _ _ => nofun⟩
  | cons p t ih =>
      cases hescape : escape? p with
      | some e => exact ih.escape hindent hwidth hescape
      | none =>
          by_cases hspace : isSpace p = true
          · exact ih.space hindent hspace
          · exact ih.sign hindent hescape (by simpa using hspace)

end Writer

/-- A quoted text is read up to its closing quote. -/
theorem quotedScalar_of_readsQuoted
    (hread : ReadsQuoted double w t)
    (hrest : c.rest = quote double :: (w ++ quote double :: r))
    (hr : r.head? ≠ some (.char '\x27')) :
    quotedScalar double c = .ok (t, c.skip (w.length + 2)) := by
  have hnext : c.next.rest = w ++ quote double :: r := by
    rw [Cursor.rest_next, hrest]
    rfl
  have hfuel : w.length < c.rest.length := by
    rw [hrest]
    simp only [List.length_append, List.length_cons]
    omega
  exact hread c.next r c.rest.length hnext hr hfuel

end Yaml
end ActorManifest
