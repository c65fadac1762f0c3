import ActorManifest.Proofs.Yaml.Quoted
import ActorManifest.Yaml.Token.Plain

/-!
# Plain texts are read back

A plain text is read word by word.  The gap between two words is some spaces, or a line break
where there was one space; the reader takes either for the spaces that stood there.
-/

namespace ActorManifest
namespace Yaml

variable {c : Cursor} {r w t : Text} {fuel n : Nat}

/-! ## Words -/

/-- No colon stands in front of a gap, and no number sign behind a space. -/
def IsUnmarked : Text → Prop
  | [] => True
  | p :: rest =>
    (p = .char ':' → Writer.atGap rest = false) ∧
      (p = .char ' ' → rest.head? ≠ some (.char '#')) ∧ IsUnmarked rest

theorem isUnmarked_of_holdsMark
    {p : CodePoint} (hcolon : p = .char ':' → Writer.atGap t = false)
    (ht : Writer.holdsMark (p :: t) = false) : IsUnmarked (p :: t) := by
  induction t generalizing p with
  | nil => exact ⟨hcolon, fun _ => nofun, trivial⟩
  | cons q t ih =>
      rw [Writer.holdsMark, Bool.or_eq_false_iff, Bool.or_eq_false_iff] at ht
      obtain ⟨⟨hnext, hsign⟩, hrest⟩ := ht
      refine ⟨hcolon, ?_, ih ?_ hrest⟩
      · rintro rfl heq
        cases heq
        simp [Writer.isSpace] at hsign
      · rintro rfl
        simpa using hnext

theorem IsUnmarked.of_append {s : Text} (h : IsUnmarked (s ++ t)) : IsUnmarked t := by
  induction s with
  | nil => exact h
  | cons p s ih => exact ih h.2.2

/-- A word is read up to where nothing can go on with it. -/
theorem plainRun_append
    (hw : ∀ p ∈ w, IsSolid p) (hlast : w.getLast? ≠ some (.char ':'))
    (hr : plainRun false r = []) : plainRun false (w ++ r) = w := by
  induction w with
  | nil => exact hr
  | cons p w ih =>
      have hp : (isBlank p || isBreak p) = false := by
        rw [(hw p List.mem_cons_self).1, (hw p List.mem_cons_self).2]
        rfl
      have hgap : ¬(p = .char ':' ∧ (atGap (w ++ r) = true ∨
          (false = true ∧ (w ++ r).head?.any flowMarks.contains))) := by
        rintro ⟨rfl, hgap | ⟨hflow, -⟩⟩
        · cases w with
          | nil => exact hlast rfl
          | cons q w =>
              have hq := hw q (by simp)
              rw [List.cons_append, atGap, hq.1, hq.2] at hgap
              cases hgap
        · cases hflow
      have hlast' : w.getLast? ≠ some (.char ':') := by
        cases w with
        | nil => exact nofun
        | cons q w => simpa using hlast
      rw [List.cons_append, plainRun, if_neg (by simp [hp]), if_neg hgap,
        ih (fun q hq => hw q (List.mem_cons_of_mem p hq)) hlast']
      rfl

/-! ## Gaps -/

theorem plainSpaces_spaces
    (hrest : c.rest = Writer.spaces n ++ r)
    (hr : ∀ p ∈ r.head?, p ≠ .char ' ' ∧ isBreak p = false) :
    plainSpaces c = (Writer.spaces n, false, c.skip n) := by
  have hspan : c.span (· == .char ' ') = (Writer.spaces n, c.skip n) := by
    have hspaces : ∀ p ∈ Writer.spaces n, (p == .char ' ') = true := by
      intro p hp
      rw [List.eq_of_mem_replicate hp]
      rfl
    have hstop : ∀ p ∈ r.head?, (p == .char ' ') = false :=
      fun p hp => beq_eq_false_iff_ne.mpr (hr p hp).1
    rw [Cursor.span_of_append hrest hspaces hstop, Writer.spaces, List.length_replicate]
  have hlength : (Writer.spaces n).length = n := List.length_replicate
  have hskip : (c.skip n).rest = r := hlength ▸ Cursor.rest_skip_of_eq hrest
  rw [plainSpaces, hspan]
  dsimp only
  rw [hskip]
  cases r with
  | nil => rfl
  | cons p r => simp only [(hr p rfl).2, Bool.false_eq_true, if_false]

/-- A line break with the spaces behind it stands for one space. -/
theorem plainSpaces_newLine
    (hrest : c.rest = Writer.newLine n ++ r) (hr : ∀ p ∈ r.head?, IsSolid p)
    (hmark : atDocumentMark (Writer.spaces n ++ r) = false) :
    plainSpaces c = ([.char ' '], true, c.skip (n + 1)) := by
  have hspan : c.span (· == .char ' ') = ([], c) :=
    Cursor.span_of_append (w := []) hrest (List.forall_mem_nil _) (by rintro p ⟨⟩; rfl)
  have hnext : c.next.rest = Writer.spaces n ++ r := by
    rw [Cursor.rest_next, hrest]
    rfl
  have hspaces : c.next.skipSpaces = c.next.skip n := by
    refine Cursor.skipSpaces_of_append hnext ?_
    intro hhead
    exact absurd (hr _ hhead).1 (by decide)
  have hlength : (Writer.spaces n).length = n := List.length_replicate
  have hskip : (c.next.skip n).rest = r := hlength ▸ Cursor.rest_skip_of_eq hnext
  have hbreaks : plainBreaks (c.rest.length + 1) c.next = (some [], c.next.skip n) := by
    rw [plainBreaks, hnext, hmark, if_neg Bool.false_ne_true]
    dsimp only
    rw [hspaces, hskip]
    cases r with
    | nil => rfl
    | cons p r => simp only [(hr p rfl).2, Bool.false_eq_true, if_false]
  have hfeed : c.rest = .char '\n' :: (Writer.spaces n ++ r) := hrest
  rw [plainSpaces, hspan]
  simp only [hfeed, show isBreak (.char '\n') = true from rfl, if_true]
  rw [← hfeed, hbreaks]
  rfl

/-! ## What follows a plain text -/

/-- A token begins here, or the text ends. -/
structure AtToken (t : Text) : Prop where
  head : ∀ p ∈ t.head?, IsSolid p ∧ p ≠ .char '#'
  mark : atDocumentMark t = false

/-- Here a plain text ends: no word goes on, and what may pass for a gap has so many code
points and does not lead far enough to the right. -/
structure EndsPlain (indentation : Int) (r : Text) (crossed : Bool) (k : Nat) : Prop where
  run : plainRun false r = []
  gap : ∀ c : Cursor, c.rest = r → ∃ gap, plainSpaces c = (gap, crossed, c.skip k) ∧
    (gap = [] ∨ ((c.skip k).column : Int) < indentation)

theorem endsPlain_colon {indentation : Int} (hr : atGap r = true) :
    EndsPlain indentation (.char ':' :: r) false 0 where
  run := by
    have hblank : (isBlank (.char ':') || isBreak (.char ':')) = false := by
      decide
    rw [plainRun, if_neg (by simp [hblank]), if_pos ⟨rfl, .inl hr⟩]
  gap c hrest := by
    refine ⟨[], ?_, .inl rfl⟩
    refine plainSpaces_spaces (n := 0) hrest ?_
    rintro p ⟨⟩
    decide

theorem endsPlain_newLine
    {indentation : Int} (hr : AtToken r) (hn : (n : Int) < indentation) :
    EndsPlain indentation (Writer.newLine n ++ r) true (n + 1) where
  run := rfl
  gap c hrest := by
    refine ⟨[.char ' '], plainSpaces_newLine hrest (fun p hp => (hr.head p hp).1) ?_, .inr ?_⟩
    · rcases Nat.eq_zero_or_pos n with rfl | hpos
      · exact hr.mark
      · exact atDocumentMark_spaces hpos r
    · rw [Cursor.skip_newLine hrest]
      exact hn

/-! ## Plain texts -/

/-- A text that may stand without quotes. -/
structure IsPlain (t : Text) : Prop where
  simple : ∀ p ∈ t, Writer.isSimple p = true ∧ Writer.isFeed p = false
  filled : t ≠ []
  head : t.head?.any Writer.isSpace = false
  last : t.getLast?.any Writer.isSpace = false
  begins : Writer.beginsWithMark t = false
  holds : Writer.holdsMark t = false

namespace Writer

variable {split afterSpace : Bool} {indent column : Nat}

theorem plainFrom_word
    {p : CodePoint} (hw : ∀ q ∈ p :: w, isSpace q = false) (t : Text) :
    plainFrom split indent column afterSpace (p :: w ++ t) =
      p :: w ++ plainFrom split indent (column + (w.length + 1)) false t := by
  induction w generalizing p column afterSpace with
  | nil =>
      rw [List.singleton_append, plainFrom, if_neg (by simp [hw p List.mem_cons_self])]
      rfl
  | cons q w ih =>
      have hrest : plainFrom split indent (column + 1) false (q :: w ++ t) =
          q :: w ++ plainFrom split indent (column + 1 + (w.length + 1)) false t :=
        ih fun x hx => hw x (List.mem_cons_of_mem p hx)
      rw [List.cons_append, plainFrom, if_neg (by simp [hw p List.mem_cons_self]), hrest,
        List.length_cons, Nat.add_right_comm column 1, Nat.add_assoc column]
      rfl

theorem plainFrom_spaces (n : Nat) (t : Text) :
    plainFrom split indent column true (spaces n ++ t) =
      spaces n ++ plainFrom split indent (column + n) true t := by
  induction n generalizing column with
  | zero => rfl
  | succ n ih =>
      have hbreaks : breaksHere split true column (spaces n ++ t) = false := by
        simp [breaksHere]
      have hspace : isSpace (.char ' ') = true := rfl
      rw [spaces, List.replicate_succ, List.cons_append, plainFrom, if_pos hspace]
      change (if breaksHere split true column (spaces n ++ t) then _ else _) = _
      rw [hbreaks, if_neg Bool.false_ne_true]
      change _ :: plainFrom split indent (column + 1) true (spaces n ++ t) = _
      rw [ih, List.cons_append, Nat.add_assoc, Nat.add_comm 1 n]
      rfl

/-- A gap between words is written as it is, or as a line break if it is one space. -/
theorem exists_plainFrom_gap (n : Nat) (t : Text) :
    ∃ gap later, plainFrom split indent column false (spaces (n + 1) ++ t) =
        gap ++ plainFrom split indent later true t ∧
      (gap = spaces (n + 1) ∨ split = true ∧ n = 0 ∧ gap = newLine indent) := by
  have hspace : isSpace (.char ' ') = true := rfl
  have hcons : spaces (n + 1) ++ t = .char ' ' :: (spaces n ++ t) := rfl
  rw [hcons, plainFrom, if_pos hspace]
  split
  · rename_i hbreaks
    simp only [breaksHere, Bool.and_eq_true, Bool.not_eq_true'] at hbreaks
    obtain ⟨⟨⟨hsplit, -⟩, -⟩, hsingle⟩ := hbreaks
    cases n with
    | zero => exact ⟨newLine indent, indent, rfl, .inr ⟨hsplit, rfl, rfl⟩⟩
    | succ n => cases hsingle
  · refine ⟨spaces (n + 1), column + 1 + n, ?_, .inl rfl⟩
    rw [plainFrom_spaces]
    rfl

end Writer

/-- A text that ends with a word and begins with a space is spaces and a text that begins with
a word. -/
theorem exists_spaces
    (hlast : (.char ' ' :: t).getLast?.any Writer.isSpace = false) :
    ∃ n q s, .char ' ' :: t = Writer.spaces (n + 1) ++ q :: s ∧ Writer.isSpace q = false := by
  induction t with
  | nil => cases hlast
  | cons p t ih =>
      by_cases hp : p = .char ' '
      · subst hp
        obtain ⟨n, q, s, heq, hq⟩ := ih (by simpa using hlast)
        exact ⟨n + 1, q, s, by rw [heq]; rfl, hq⟩
      · exact ⟨0, p, t, rfl, beq_eq_false_iff_ne.mpr hp⟩

/-- A text that begins and ends with a word is one, or it is a word, spaces, and a text that
begins with a word. -/
theorem exists_word
    {p : CodePoint} (hp : Writer.isSpace p = false)
    (hlast : (p :: t).getLast?.any Writer.isSpace = false) :
    (∀ x ∈ p :: t, Writer.isSpace x = false) ∨
      ∃ w n q s, p :: t = p :: w ++ (Writer.spaces (n + 1) ++ q :: s) ∧
        (∀ x ∈ p :: w, Writer.isSpace x = false) ∧ Writer.isSpace q = false := by
  induction t generalizing p with
  | nil => exact .inl (List.forall_mem_singleton.mpr hp)
  | cons q t ih =>
      have hlast' : (q :: t).getLast?.any Writer.isSpace = false := by
        simpa using hlast
      by_cases hq : Writer.isSpace q = true
      · obtain rfl : q = .char ' ' := beq_iff_eq.mp hq
        obtain ⟨n, q, s, heq, hq⟩ := exists_spaces hlast'
        exact .inr ⟨[], n, q, s, by rw [heq]; rfl, List.forall_mem_singleton.mpr hp, hq⟩
      · rw [Bool.not_eq_true] at hq
        rcases ih hq hlast' with hall | ⟨w, n, x, s, heq, hw, hx⟩
        · exact .inl (List.forall_mem_cons.mpr ⟨hp, hall⟩)
        · exact .inr ⟨q :: w, n, x, s, by rw [heq]; rfl, List.forall_mem_cons.mpr ⟨hp, hw⟩, hx⟩

/-- A text whose first word may begin a plain text or go on with one. -/
structure IsWords (t : Text) : Prop where
  simple : ∀ p ∈ t, Writer.isSimple p = true ∧ Writer.isFeed p = false
  filled : t ≠ []
  head : ∀ p ∈ t.head?, Writer.isSpace p = false ∧ p ≠ .char '#'
  last : t.getLast?.any Writer.isSpace = false
  unmarked : IsUnmarked t

theorem IsWords.of_append
    {p : CodePoint} {s : Text} (ht : IsWords (w ++ (Writer.spaces (n + 1) ++ p :: s)))
    (hp : Writer.isSpace p = false) : IsWords (p :: s) where
  simple q hq := ht.simple q (by simp [hq])
  filled := List.cons_ne_nil p s
  head := by
    rintro _ ⟨⟩
    refine ⟨hp, ?_⟩
    rintro rfl
    have hspace : Writer.spaces (n + 1) = Writer.spaces n ++ [.char ' '] := List.replicate_succ'
    have hmarked := ht.unmarked.of_append
    rw [hspace, List.append_assoc] at hmarked
    exact hmarked.of_append.2.1 rfl rfl
  last := by
    have hlast := ht.last
    rwa [← List.append_assoc, List.getLast?_append_cons] at hlast
  unmarked := ht.unmarked.of_append.of_append

theorem getLast?_ne_colon
    {s : Text} (hs : IsUnmarked (w ++ s)) (hgap : Writer.atGap s = true) :
    w.getLast? ≠ some (.char ':') := by
  intro hlast
  obtain ⟨w, rfl⟩ : ∃ v, w = v ++ [.char ':'] := by
    exact ⟨_, (List.dropLast_append_getLast? _ hlast).symm⟩
  rw [List.append_assoc] at hs
  have hcolon : Writer.atGap s = false := hs.of_append.1 rfl
  rw [hgap] at hcolon
  cases hcolon

theorem IsWords.isSolid
    (ht : IsWords (w ++ t)) (hw : ∀ p ∈ w, Writer.isSpace p = false) : ∀ p ∈ w, IsSolid p := by
  intro p hp
  obtain ⟨hsimple, hfeed⟩ := ht.simple p (List.mem_append_left t hp)
  exact Writer.isSolid_of_isSimple hsimple (hw p hp) hfeed

theorem IsWords.isLine (ht : IsWords (w ++ t)) : Cursor.IsLine w := by
  intro p hp
  obtain ⟨hsimple, hfeed⟩ := ht.simple p (List.mem_append_left t hp)
  constructor
  · by_cases hspace : Writer.isSpace p = true
    · rw [beq_iff_eq.mp hspace]
      decide
    · exact (Writer.isSolid_of_isSimple hsimple (by simpa using hspace) hfeed).2
  · rintro rfl
    cases hsimple

/-- What is written of the gap between two words is read as the spaces that it stands for, and
leads far enough to the right to go on. -/
theorem plainSpaces_gap
    {indentation : Int} {split : Bool} {indent : Nat} {gap : Text}
    (hindent : split = true → 0 < indent ∧ indentation ≤ indent)
    (hgap : gap = Writer.spaces (n + 1) ∨ split = true ∧ n = 0 ∧ gap = Writer.newLine indent)
    (hr : ∃ p ∈ r.head?, IsSolid p) (hrest : c.rest = gap ++ r) (hcolumn : indentation ≤ c.column) :
    ∃ crossed, plainSpaces c = (Writer.spaces (n + 1), crossed, c.skip gap.length) ∧
      indentation ≤ (c.skip gap.length).column := by
  have hsolid : ∀ p ∈ r.head?, IsSolid p := by
    obtain ⟨p, hp, hsolid⟩ := hr
    intro q hq
    cases hp.symm.trans hq
    exact hsolid
  rcases hgap with rfl | ⟨hsplit, rfl, rfl⟩
  · have hlength : (Writer.spaces (n + 1)).length = n + 1 := List.length_replicate
    have hspaces := plainSpaces_spaces hrest fun p hp => by
      refine ⟨?_, (hsolid p hp).2⟩
      rintro rfl
      exact absurd (hsolid _ hp).1 (by decide)
    refine ⟨false, by rw [hlength]; exact hspaces, ?_⟩
    rw [Cursor.skip_of_line hrest (Cursor.isLine_spaces _)]
    dsimp only
    omega
  · obtain ⟨hpos, hindent⟩ := hindent hsplit
    have hlength : (Writer.newLine indent).length = indent + 1 := by
      rw [Writer.newLine, List.length_cons, Writer.spaces, List.length_replicate]
    rw [hlength]
    refine ⟨true, plainSpaces_newLine hrest hsolid (atDocumentMark_spaces hpos r), ?_⟩
    rw [Cursor.skip_newLine hrest]
    exact hindent

theorem head_plainFrom
    {p : CodePoint} (hp : Writer.isSpace p = false) {split afterSpace : Bool}
    {indent column : Nat} :
    (Writer.plainFrom split indent column afterSpace (p :: t)).head? = some p := by
  rw [Writer.plainFrom, if_neg (by simp [hp])]
  rfl

theorem plainFrom_stop
    {indentation : Int} {crossed x : Bool} {after : Cursor}
    (hsign : c.rest.head? ≠ some (.char '#')) (hrun : plainRun false c.rest = w) (hw : w ≠ [])
    (hspaces : plainSpaces (c.skip w.length) = (t, crossed, after))
    (hstop : t = [] ∨ (after.column : Int) < indentation) (gap : Text) :
    plainFrom false indentation (fuel + 1) gap x c = (gap ++ w, crossed, after) := by
  have hstop' : (t.isEmpty || (!false && decide ((after.column : Int) < indentation))) = true := by
    rcases hstop with rfl | hstop
    · rfl
    · simp [hstop]
  simp only [plainFrom, if_neg hsign, hrun, List.isEmpty_eq_false_iff.mpr hw, Bool.false_eq_true,
    if_false, hspaces, hstop', if_true]

theorem plainFrom_next
    {indentation : Int} {crossed x : Bool} {after : Cursor}
    (hsign : c.rest.head? ≠ some (.char '#')) (hrun : plainRun false c.rest = w) (hw : w ≠ [])
    (hspaces : plainSpaces (c.skip w.length) = (t, crossed, after))
    (hfilled : t ≠ []) (hcolumn : indentation ≤ after.column) (gap : Text) :
    plainFrom false indentation (fuel + 1) gap x c =
      ((gap ++ w ++ (plainFrom false indentation fuel t crossed after).1),
        (plainFrom false indentation fuel t crossed after).2) := by
  have hstop : (t.isEmpty || (!false && decide ((after.column : Int) < indentation))) = false := by
    rw [List.isEmpty_eq_false_iff.mpr hfilled, decide_eq_false (by omega)]
    rfl
  simp only [plainFrom, if_neg hsign, hrun, List.isEmpty_eq_false_iff.mpr hw, Bool.false_eq_true,
    if_false, hspaces, hstop]

section Words

variable {indentation : Int} {crossed : Bool} {k : Nat} {split : Bool} {indent : Nat}

/-- With enough fuel the words are read from a place up to their end, whatever stands in their
gaps. -/
def ReadsWords (indentation : Int) (r : Text) (crossed : Bool) (k : Nat) (split : Bool)
    (indent : Nat) (t : Text) : Prop :=
  ∀ (c : Cursor) column afterSpace gap x fuel,
    c.rest = Writer.plainFrom split indent column afterSpace t ++ r →
    indentation ≤ c.column + 1 → t.length < fuel →
    plainFrom false indentation fuel gap x c =
      (gap ++ t, crossed,
        c.skip ((Writer.plainFrom split indent column afterSpace t).length + k))

theorem head?_ne_sign
    {p : CodePoint} {column : Nat} {afterSpace : Bool} (ht : IsWords (p :: t))
    (hrest : c.rest = Writer.plainFrom split indent column afterSpace (p :: t) ++ r) :
    c.rest.head? ≠ some (.char '#') := by
  obtain ⟨hp, hsign⟩ := ht.head p rfl
  rw [hrest, List.head?_append, head_plainFrom hp]
  rintro ⟨⟩
  exact hsign rfl

/-- The last word ends the text. -/
theorem readsWords_of_word
    {p : CodePoint} (hends : EndsPlain indentation r crossed k) (ht : IsWords (p :: t))
    (hall : ∀ q ∈ p :: t, Writer.isSpace q = false) :
    ReadsWords indentation r crossed k split indent (p :: t) := by
  intro c column afterSpace gap x fuel hrest _ hfuel
  obtain ⟨fuel, rfl⟩ := Nat.exists_eq_add_one_of_ne_zero (Nat.ne_of_gt (Nat.zero_lt_of_lt hfuel))
  have hhead := head?_ne_sign ht hrest
  have hwritten : Writer.plainFrom split indent column afterSpace (p :: t) = p :: t := by
    have hword : Writer.plainFrom split indent column afterSpace (p :: t ++ []) = p :: t ++ [] :=
      Writer.plainFrom_word hall []
    rwa [List.append_nil] at hword
  rw [hwritten] at hrest ⊢
  have ht' : IsWords (p :: t ++ []) := by
    rwa [List.append_nil]
  have hrun : plainRun false c.rest = p :: t := by
    rw [hrest]
    exact plainRun_append (ht'.isSolid hall) (getLast?_ne_colon ht'.unmarked rfl) hends.run
  obtain ⟨tail, hspaces, hstop⟩ := hends.gap _ (Cursor.rest_skip_of_eq hrest)
  rw [Cursor.skip_skip] at hspaces hstop
  exact plainFrom_stop hhead hrun ht.filled hspaces hstop gap

/-- A word and a gap are read in front of more words. -/
theorem ReadsWords.gap
    {p q : CodePoint} {s : Text} (hs : ReadsWords indentation r crossed k split indent (q :: s))
    (hindent : split = true → 0 < indent ∧ indentation ≤ indent)
    (ht : IsWords (p :: w ++ (Writer.spaces (n + 1) ++ q :: s)))
    (hw : ∀ x ∈ p :: w, Writer.isSpace x = false) (hq : Writer.isSpace q = false) :
    ReadsWords indentation r crossed k split indent
      (p :: w ++ (Writer.spaces (n + 1) ++ q :: s)) := by
  intro c column afterSpace gap x fuel hrest hcolumn hfuel
  obtain ⟨fuel, rfl⟩ := Nat.exists_eq_add_one_of_ne_zero (Nat.ne_of_gt (Nat.zero_lt_of_lt hfuel))
  have hhead := head?_ne_sign ht hrest
  obtain ⟨between, later, hgap, hform⟩ : ∃ between later,
      Writer.plainFrom split indent (column + (w.length + 1)) false
          (Writer.spaces (n + 1) ++ q :: s) =
        between ++ Writer.plainFrom split indent later true (q :: s) ∧
      (between = Writer.spaces (n + 1) ∨
        split = true ∧ n = 0 ∧ between = Writer.newLine indent) :=
    Writer.exists_plainFrom_gap n (q :: s)
  have hwritten : Writer.plainFrom split indent column afterSpace
      (p :: w ++ (Writer.spaces (n + 1) ++ q :: s)) =
        p :: w ++ (between ++ Writer.plainFrom split indent later true (q :: s)) := by
    rw [Writer.plainFrom_word hw, hgap]
  rw [hwritten] at hrest ⊢
  simp only [List.append_assoc] at hrest
  have hrun : plainRun false c.rest = p :: w := by
    rw [hrest]
    refine plainRun_append (ht.isSolid hw) (getLast?_ne_colon ht.unmarked rfl) ?_
    rcases hform with rfl | ⟨-, -, rfl⟩ <;> rfl
  -- Behind the gap the next word begins, far enough to the right.
  have hbehind : ∃ x ∈ (Writer.plainFrom split indent later true (q :: s) ++ r).head?,
      IsSolid x := by
    have hnext : IsWords ([q] ++ s) := ht.of_append hq
    refine ⟨q, ?_, hnext.isSolid (List.forall_mem_singleton.mpr hq) q List.mem_cons_self⟩
    rw [List.head?_append, head_plainFrom hq]
    rfl
  have hword := Cursor.skip_of_line hrest ht.isLine
  obtain ⟨crossed', hspaces, hfar⟩ := plainSpaces_gap hindent hform hbehind
    (Cursor.rest_skip_of_eq hrest) (by rw [hword]; simp only [List.length_cons]; omega)
  have hlength : (q :: s).length < fuel := by
    simp only [List.length_append, List.length_cons] at hfuel ⊢
    omega
  have hread := hs _ later true (Writer.spaces (n + 1)) crossed' fuel
    (Cursor.rest_skip_of_eq (Cursor.rest_skip_of_eq hrest)) (by omega) hlength
  rw [plainFrom_next hhead hrun (List.cons_ne_nil p w) hspaces (by simp [Writer.spaces]) hfar,
    hread]
  simp only [Cursor.skip_skip, List.length_append, List.append_assoc, Nat.add_assoc]

/-- Words are read one after another, by induction on the length of what is left. -/
theorem readsWords_of_isWords
    (hends : EndsPlain indentation r crossed k)
    (hindent : split = true → 0 < indent ∧ indentation ≤ indent) (ht : IsWords t) :
    ReadsWords indentation r crossed k split indent t := by
  induction hlength : t.length using Nat.strongRecOn generalizing t with
  | ind m ih =>
      obtain ⟨p, t, rfl⟩ := List.exists_cons_of_ne_nil ht.filled
      rcases exists_word (ht.head p rfl).1 ht.last with hall | ⟨w, n, q, s, heq, hw, hq⟩
      · exact readsWords_of_word hends ht hall
      · rw [heq] at ht hlength ⊢
        have hshort : (q :: s).length < m := by
          rw [← hlength]
          simp only [List.length_append, List.length_cons]
          omega
        exact (ih _ hshort (ht.of_append hq) rfl).gap hindent ht hw hq

end Words

theorem length_le_plainFrom
    (split : Bool) (indent column : Nat) (afterSpace : Bool) (t : Text) :
    t.length ≤ (Writer.plainFrom split indent column afterSpace t).length := by
  induction t generalizing column afterSpace with
  | nil => exact Nat.le_refl 0
  | cons p t ih =>
      rw [Writer.plainFrom]
      split
      · split
        · have hlength := ih indent true
          simp only [Writer.newLine, List.length_append, List.length_cons]
          omega
        · exact Nat.succ_le_succ (ih _ _)
      · exact Nat.succ_le_succ (ih _ _)

theorem IsPlain.isWords (ht : IsPlain t) : IsWords t := by
  obtain ⟨p, t, rfl⟩ := List.exists_cons_of_ne_nil ht.filled
  have hbegins := ht.begins
  rw [Writer.beginsWithMark, Bool.or_eq_false_iff] at hbegins
  obtain ⟨hsigns, hmarks⟩ := Bool.or_eq_false_iff.mp hbegins.2
  refine ⟨ht.simple, ht.filled, ?_, ht.last, isUnmarked_of_holdsMark ?_ ht.holds⟩
  · rintro _ ⟨⟩
    refine ⟨by simpa using ht.head, ?_⟩
    rintro rfl
    exact absurd hsigns (by decide)
  · rintro rfl
    exact (Bool.and_eq_false_iff.mp hmarks).resolve_left (by decide)

/-- A plain text is read from a place on. -/
theorem plainScalar_of_isPlain
    {parent : Int} {crossed : Bool} {k : Nat} {split : Bool} {indent column : Nat}
    (hends : EndsPlain (parent + 1) r crossed k)
    (hindent : split = true → 0 < indent ∧ parent + 1 ≤ indent) (ht : IsPlain t)
    (hrest : c.rest = Writer.plainFrom split indent column false t ++ r)
    (hcolumn : parent ≤ c.column) :
    plainScalar false parent c =
      (t, crossed, c.skip ((Writer.plainFrom split indent column false t).length + k)) := by
  have hlength := length_le_plainFrom split indent column false t
  have hfuel : t.length < c.rest.length + 1 := by
    rw [hrest, List.length_append]
    omega
  exact readsWords_of_isWords hends hindent ht.isWords c column false [] false _ hrest (by omega)
    hfuel

/-! ## The start of a plain text -/

section Start

variable {p : CodePoint} {split afterSpace : Bool} {indent column : Nat}

/-- What stands at the start of the written form without any gap stands at the start of the
text. -/
theorem prefix_of_prefix_plainFrom
    {m : Text} (hm : ∀ x ∈ m, x ≠ .char ' ' ∧ x ≠ .char '\n' ∧ r.head? ≠ some x)
    (hfront : m <+: Writer.plainFrom split indent column afterSpace t ++ r) : m <+: t := by
  induction m generalizing t column afterSpace with
  | nil => exact List.nil_prefix
  | cons x m ih =>
      obtain ⟨hspace, hfeed, hr⟩ := hm x List.mem_cons_self
      cases t with
      | nil =>
          exfalso
          obtain ⟨more, hmore⟩ := hfront
          rw [Writer.plainFrom, List.nil_append] at hmore
          exact hr (by rw [← hmore]; rfl)
      | cons p t =>
          rw [Writer.plainFrom] at hfront
          split at hfront
          · rename_i hp
            obtain rfl : p = .char ' ' := beq_iff_eq.mp hp
            exfalso
            split at hfront
            · exact hfeed (List.cons_prefix_cons.mp hfront).1
            · exact hspace (List.cons_prefix_cons.mp hfront).1
          · rw [List.cons_append, List.cons_prefix_cons] at hfront
            obtain ⟨rfl, hfront⟩ := hfront
            refine List.cons_prefix_cons.mpr ⟨rfl, ?_⟩
            exact ih (fun y hy => hm y (List.mem_cons_of_mem x hy)) hfront

theorem isSome_after?_of_front {b : Text} (hfront : b <+: t) :
    (Text.after? b t).isSome = true := by
  induction b generalizing t with
  | nil => rfl
  | cons x b ih =>
      cases t with
      | nil => simp at hfront
      | cons y t =>
          obtain ⟨rfl, hrest⟩ := List.cons_prefix_cons.mp hfront
          rw [Text.after?, if_pos rfl]
          exact ih hrest

/-- The written form begins with a mark around documents only if the text does. -/
theorem take_ne_mark
    (hr : ∀ x ∈ r.head?, x = .char '\n' ∨ x = .char ':') {m : Text}
    (hm : ∀ x ∈ m, x = .char '-' ∨ x = .char '.') (hnone : (Text.after? m t).isSome = false) :
    ((Writer.plainFrom split indent column afterSpace t ++ r).take 3 == m) = false := by
  rw [beq_eq_false_iff_ne]
  intro heq
  have hfront : m <+: Writer.plainFrom split indent column afterSpace t ++ r := by
    rw [← heq]
    exact List.take_prefix 3 _
  have hinside : ∀ x ∈ m, x ≠ .char ' ' ∧ x ≠ .char '\n' ∧ r.head? ≠ some x := by
    intro x hx
    have hhead : r.head? = some x → x = .char '\n' ∨ x = .char ':' := hr x
    rcases hm x hx with rfl | rfl
    · exact ⟨by decide, by decide, fun h => absurd (hhead h) (by decide)⟩
    · exact ⟨by decide, by decide, fun h => absurd (hhead h) (by decide)⟩
  have hstart := isSome_after?_of_front (prefix_of_prefix_plainFrom hinside hfront)
  rw [hnone] at hstart
  cases hstart

/-- What goes on with a text of simple signs is not a gap in the written form either. -/
theorem atGap_plainFrom
    (hsimple : ∀ p ∈ t, Writer.isSimple p = true) (hgap : Writer.atGap t = false) :
    atGap (Writer.plainFrom split indent column afterSpace t ++ r) = false := by
  cases t with
  | nil => cases hgap
  | cons q t =>
      have hq : Writer.isSpace q = false ∧ Writer.isFeed q = false := by
        simpa [Writer.atGap] using hgap
      have hsolid := Writer.isSolid_of_isSimple (hsimple q List.mem_cons_self) hq.1 hq.2
      rw [Writer.plainFrom, if_neg (by simp [hq.1]), List.cons_append, atGap, hsolid.1, hsolid.2]
      rfl

/-- The written form of a plain text begins like a plain scalar. -/
theorem exists_start_of_isPlain
    (split : Bool) (indent column : Nat) (ht : IsPlain t)
    (hr : ∀ x ∈ r.head?, x = .char '\n' ∨ x = .char ':') :
    ∃ p rest, Writer.plainFrom split indent column false t ++ r = p :: rest ∧
      p ∉ Writer.leadingSigns ∧ (p ∈ Writer.leadingMarks → atGap rest = false) ∧
      p ≠ .char '\t' ∧ IsSolid p ∧ atDocumentMark (p :: rest) = false := by
  obtain ⟨p, t, rfl⟩ := List.exists_cons_of_ne_nil ht.filled
  have hspace := (ht.isWords.head p rfl).1
  have hsolid : IsSolid p := by
    have hall : IsWords ([p] ++ t) := ht.isWords
    exact hall.isSolid (List.forall_mem_singleton.mpr hspace) p List.mem_cons_self
  have hbegins := ht.begins
  rw [Writer.beginsWithMark, Bool.or_eq_false_iff, Bool.or_eq_false_iff] at hbegins
  obtain ⟨⟨hdashes, hdots⟩, hsigns⟩ := hbegins
  obtain ⟨hsigns, hmarks⟩ := Bool.or_eq_false_iff.mp hsigns
  have hwritten : Writer.plainFrom split indent column false (p :: t) ++ r =
      p :: (Writer.plainFrom split indent (column + 1) false t ++ r) := by
    rw [Writer.plainFrom, if_neg (by simp [hspace]), List.cons_append]
  refine ⟨p, _, hwritten, ?_, ?_, ?_, hsolid, ?_⟩
  · simpa using hsigns
  · intro hmark
    rw [List.contains_iff_mem.mpr hmark, Bool.true_and] at hmarks
    exact atGap_plainFrom (fun q hq => (ht.simple q (List.mem_cons_of_mem p hq)).1) hmarks
  · rintro rfl
    exact absurd hsolid.1 (by decide)
  · rw [← hwritten, atDocumentMark, take_ne_mark hr (by decide) hdashes,
      take_ne_mark hr (by decide) hdots]
    rfl

end Start

end Yaml
end ActorManifest
