import ActorManifest.Proofs.Yaml.Lexing
import ActorManifest.Proofs.Yaml.Written

/-!
# Cutting scalars and keys

A scalar is one token, whatever way it is written in, and so is a key in front of its colon.
Empty collections are two tokens.
-/

namespace ActorManifest
namespace Yaml

variable {s : Lexer} {p : CodePoint} {t w r : Text} {n k column : Nat} {indent : Int}
  {outer : List Int} {allowed crossed plain : Bool} {tokens : List Token}

/-! ## Scalars -/

namespace Lexer

theorem token_of_plain
    (hsigns : p ∉ Writer.leadingSigns) (hmarks : p ∈ Writer.leadingMarks → atGap r = false)
    (htab : p ≠ .char '\t') (hdocument : atDocumentMark (p :: r) = false) (hflow : s.flow = 0) :
    s.token p r = s.plainText := by
  have hne : ∀ q ∈ Writer.leadingSigns, p ≠ q := by
    rintro q hq rfl
    exact hsigns hq
  have hgap : ∀ q ∈ Writer.leadingMarks, ¬(p = q ∧ atGap r = true) := by
    rintro q hq ⟨rfl, hgap⟩
    rw [hmarks hq] at hgap
    cases hgap
  have hbegins : s.beginsPlain p r = true := by
    have hall : ∀ q ∈ indicators, q ∈ Writer.leadingSigns ∨ q ∈ Writer.leadingMarks := by
      decide
    have hcases : ∀ q ∈ Writer.leadingMarks, q = .char '?' ∨ q = .char ':' ∨ q = .char '-' := by
      decide
    unfold beginsPlain
    split
    · rename_i hindicator
      rw [Bool.or_eq_true, List.contains_iff_mem, beq_iff_eq] at hindicator
      have hmark := (hall p (hindicator.resolve_right htab)).resolve_left hsigns
      rw [hmarks hmark, hflow]
      rcases hcases p hmark with rfl | rfl | rfl <;> rfl
    · rfl
  have hpercent := hne (.char '%') (by decide)
  have hopenList := hne (.char '[') (by decide)
  have hopenMap := hne (.char '\x7b') (by decide)
  have hcloseList := hne (.char ']') (by decide)
  have hcloseMap := hne (.char '\x7d') (by decide)
  have hcomma := hne (.char ',') (by decide)
  have hstar := hne (.char '*') (by decide)
  have hand := hne (.char '&') (by decide)
  have hbang := hne (.char '!') (by decide)
  have hbar := hne (.char '|') (by decide)
  have hgreater := hne (.char '>') (by decide)
  have hsingle := hne (.char '\x27') (by decide)
  have hdouble := hne (.char '"') (by decide)
  have hdash := hgap (.char '-') (by decide)
  have hquestion := hgap (.char '?') (by decide)
  have hcolon := hgap (.char ':') (by decide)
  have hflow' : (s.flow != 0 || atGap r) = atGap r := by
    simp [hflow]
  simp only [token, hpercent, hopenList, hopenMap, hcloseList, hcloseMap, hcomma, hstar, hand,
    hbang, hbar, hgreater, hsingle, hdouble, hdash, hquestion, hcolon, hdocument, hflow',
    hbegins, false_and, and_false, Bool.false_eq_true, if_false, if_true]

/-- The place of a key that may begin here. -/
def keyStart (s : Lexer) : KeyStart :=
  ⟨s.slots, s.flow == 0 && s.indent == (s.cursor.column : Int), s.cursor.index, s.cursor.line,
    s.cursor.column⟩

/-- The state in which a key may have begun here, if one is allowed. -/
def marked (s : Lexer) : Lexer :=
  if s.keyAllowed then
    { s with
      keys := [(s.flow, s.keyStart)], pieces := .slot s.slots :: s.pieces, slots := s.slots + 1 }
  else s

theorem saveKey_of_keys_eq_nil (hkeys : s.keys = []) : s.saveKey = .ok s.marked := by
  obtain ⟨cursor, flow, indent, outer, allowed, keys, pieces, slots⟩ := s
  cases hkeys
  cases allowed <;> rfl

/-- The state after a scalar that takes a number of code points. -/
def afterScalar (s : Lexer) (crossed plain : Bool) (t : Text) (count : Nat) : Lexer :=
  { s.marked with keyAllowed := crossed }.emit (.scalar plain t) (s.cursor.skip count)

/-- In front of `r` the text `w` is cut as one scalar, with the text and so many code points
behind it. -/
structure IsScalar (indent : Int) (w r : Text) (crossed plain : Bool) (t : Text) (k : Nat) :
    Prop where
  atToken : AtToken (w ++ r)
  filled : w ≠ []
  token (s : Lexer) (p : CodePoint) (v : Text) : w = p :: v → s.keys = [] → s.flow = 0 →
    s.indent = indent → indent ≤ s.cursor.column → s.cursor.rest = w ++ r →
    s.token p (v ++ r) = .ok (s.afterScalar crossed plain t (w.length + k))

theorem marked_eq (s : Lexer) :
    s.marked.cursor = s.cursor ∧ s.marked.flow = s.flow ∧ s.marked.indent = s.indent ∧
      s.marked.outer = s.outer ∧ s.marked.tokens = s.tokens := by
  unfold marked
  split
  · exact ⟨rfl, rfl, rfl, rfl, Piece.tokens_slot _ _⟩
  · exact ⟨rfl, rfl, rfl, rfl, rfl⟩

theorem isScalar_quoted
    {double : Bool} (hread : ReadsQuoted double w t) (hr : r.head? ≠ some (.char '\x27')) :
    IsScalar indent (quote double :: (w ++ [quote double])) r false false t 0 where
  atToken := by
    refine ⟨?_, ?_⟩
    · rintro _ ⟨⟩
      exact ⟨isSolid_quote double, by cases double <;> decide⟩
    · cases double <;> exact atDocumentMark_cons (by decide) (by decide) _
  filled := List.cons_ne_nil _ _
  token s p v hw hkeys _ _ _ hrest := by
    obtain ⟨rfl, rfl⟩ := List.cons.inj hw
    have hrest' : s.cursor.rest = quote double :: (w ++ quote double :: r) := by
      simpa using hrest
    have hquoted : quotedScalar double s.marked.cursor =
        .ok (t, s.cursor.skip (w.length + 2)) := by
      rw [(marked_eq s).1]
      exact quotedScalar_of_readsQuoted hread hrest' hr
    have hkey :
        s.keyToken (fun c => (quotedScalar double c).map fun read => (.scalar false read.1, read.2)) =
          .ok (s.afterScalar false false t (w.length + 2)) := by
      simp only [keyToken, saveKey_of_keys_eq_nil hkeys, hquoted, Except.map, bind, Except.bind]
      rfl
    have hcount : (quote double :: (w ++ [quote double])).length + 0 = w.length + 2 := by
      simp
    rw [hcount, ← hkey]
    cases double <;> simp [token, quote]

theorem isScalar_plain
    (split : Bool) (margin column : Nat) (ht : IsPlain t)
    (hends : EndsPlain (indent + 1) r crossed k)
    (hr : ∀ x ∈ r.head?, x = .char '\n' ∨ x = .char ':')
    (hsplit : split = true → 0 < margin ∧ indent + 1 ≤ margin) :
    IsScalar indent (Writer.plainFrom split margin column false t) r crossed true t k := by
  obtain ⟨p, rest, hstart, hsigns, hmarks, htab, hsolid, hdocument⟩ :=
    exists_start_of_isPlain split margin column ht hr
  have hfilled : Writer.plainFrom split margin column false t ≠ [] := by
    have hlength := length_le_plainFrom split margin column false t
    intro hnil
    rw [hnil] at hlength
    exact ht.filled (List.length_eq_zero_iff.mp (Nat.le_zero.mp hlength))
  refine ⟨?_, hfilled, ?_⟩
  · rw [hstart]
    refine ⟨?_, hdocument⟩
    rintro _ ⟨⟩
    refine ⟨hsolid, ?_⟩
    rintro rfl
    exact hsigns (by decide)
  · intro s q v hw hkeys hflow hindent hcolumn hrest
    have hstart' : q :: (v ++ r) = p :: rest := by
      rw [← hstart, hw, List.cons_append]
    obtain ⟨rfl, rfl⟩ := List.cons.inj hstart'
    have hplain : plainScalar (s.marked.flow != 0) s.marked.indent s.marked.cursor =
        (t, crossed, s.cursor.skip
          ((Writer.plainFrom split margin column false t).length + k)) := by
      obtain ⟨hcursor', hflow', hindent', -, -⟩ := marked_eq s
      rw [hcursor', hflow', hindent', hflow, hindent]
      exact plainScalar_of_isPlain hends hsplit ht hrest hcolumn
    rw [token_of_plain hsigns hmarks htab hdocument hflow, plainText,
      saveKey_of_keys_eq_nil hkeys]
    simp only [bind, Except.bind, hplain]
    rfl

end Lexer

/-! ## Values on one line -/

/-- The line ends here, the next one begins no deeper than the innermost block collection, and
from there on the text is cut into tokens. -/
def EndsLine (m : Nat) (outer : List Int) (tail : Text) (tokens : List Token) : Prop :=
  ∃ n r, tail = Writer.newLine n ++ r ∧ n ≤ m ∧ AtToken r ∧
    Place.Yields ⟨r, n, m, outer, true⟩ tokens

/-- At the end of a line inside of a block collection the text is cut into tokens. -/
def IsLeaf (m : Nat) (w : Text) (added : List Token) : Prop :=
  ∀ column outer allowed tail tokens, m < column → EndsLine m outer tail tokens →
    AtToken (w ++ tail) ∧
      Place.Yields ⟨w ++ tail, column, m, outer, allowed⟩ (added ++ tokens)

namespace Lexer

variable {m : Nat}

theorem keys_marked
    (hkeys : s.keys = []) (hindent : s.indent ≠ s.cursor.column) :
    ∀ k ∈ s.marked.keys, k.2.required = false ∧ k.2.line = s.cursor.line ∧
      k.2.index = s.cursor.index ∧ k.1 = s.flow := by
  have hrequired : (s.flow == 0 && s.indent == (s.cursor.column : Int)) = false := by
    rw [beq_eq_false_iff_ne.mpr hindent, Bool.and_false]
  unfold marked
  split
  · rintro k hk
    rw [List.mem_singleton.mp hk]
    exact ⟨hrequired, rfl, rfl, rfl⟩
  · rw [hkeys]
    exact List.forall_mem_nil _

theorem ne_column_of_stands
    (hs : s.Stands ⟨r, column, m, outer, allowed⟩) (hcolumn : m < column) :
    s.indent ≠ s.cursor.column := by
  rw [hs.indent, hs.column]
  exact Int.ne_of_lt (Int.ofNat_lt.mpr hcolumn)

theorem dropStale_of_fresh (hkeys : ∀ k ∈ s.keys, s.isStale k.2 = false) :
    s.dropStale = .ok s := by
  have hnone : (s.keys.any fun key => s.isStale key.2 && key.2.required) = false := by
    rw [List.any_eq_false]
    intro k hk
    simp [hkeys k hk]
  have hall : (s.keys.filter fun key => !s.isStale key.2) = s.keys := by
    rw [List.filter_eq_self]
    intro k hk
    simp [hkeys k hk]
  rw [dropStale, hnone, if_neg Bool.false_ne_true, hall]

theorem tokens_afterScalar (count : Nat) :
    (s.afterScalar crossed plain t count).tokens = s.tokens ++ [.scalar plain t] := by
  rw [tokens_eq, afterScalar]
  change Piece.tokens (.token (.scalar plain t) :: s.marked.pieces) = _
  rw [Piece.tokens_token, ← tokens_eq, (marked_eq s).2.2.2.2]

/-- Where a scalar stands, the run goes on behind it. -/
theorem yields_scalar
    (hscalar : IsScalar indent w r crossed plain t k) (hcolumn : indent ≤ column)
    (hrun : ∀ (s : Lexer) fuel earlier, s.Stands ⟨w ++ r, column, indent, outer, allowed⟩ →
      r.length < fuel → run fuel earlier (s.afterScalar crossed plain t (w.length + k)) =
        (s.tokens ++ tokens, none)) :
    Place.Yields ⟨w ++ r, column, indent, outer, allowed⟩ tokens := by
  obtain ⟨p, v, rfl⟩ := List.exists_cons_of_ne_nil hscalar.filled
  intro s hs fuel earlier hfuel
  obtain ⟨fuel, rfl⟩ := Nat.exists_eq_add_one_of_ne_zero (Nat.ne_of_gt (Nat.zero_lt_of_lt hfuel))
  have hindent : s.indent ≤ s.cursor.column := by
    rw [hs.indent, hs.column]
    exact hcolumn
  have htoken := hscalar.token s p v rfl hs.keys hs.flow hs.indent
    (by rw [hs.column]; exact hcolumn) hs.rest
  rw [run_of_token (dropStale_of_keys_eq_nil hs.keys) (hs.rest ▸ hscalar.atToken) hs.rest hindent
    htoken]
  refine hrun s fuel s hs ?_
  simp only [List.length_append, List.length_cons] at hfuel
  omega

section EndOfLine

variable (hcolumn : m < column) (hr : AtToken r)
  (hyields : Place.Yields ⟨r, n, m, outer, true⟩ tokens)
include hcolumn hr hyields

/-- A scalar that is cut in front of the line break is followed by what begins behind it. -/
theorem yields_scalar_stopped
    (hscalar : IsScalar m w (Writer.newLine n ++ r) false plain t 0) :
    Place.Yields ⟨w ++ (Writer.newLine n ++ r), column, m, outer, allowed⟩
      (.scalar plain t :: tokens) := by
  refine yields_scalar hscalar (Int.ofNat_le.mpr (Nat.le_of_lt hcolumn))
    fun s fuel earlier hs hfuel => ?_
  obtain ⟨-, hflow, hindent, houter, -⟩ := marked_eq s
  have hnext : Place.Yields
      ⟨r, n, (s.afterScalar false plain t (w.length + 0)).indent,
        (s.afterScalar false plain t (w.length + 0)).outer, true⟩ tokens := by
    change Place.Yields ⟨r, n, s.marked.indent, s.marked.outer, true⟩ tokens
    rw [hindent, houter, hs.indent, hs.outer]
    exact hyields
  rw [List.length_append] at hfuel
  rw [run_of_newLine hnext hr (Cursor.rest_skip_of_eq hs.rest) (hflow.trans hs.flow) ?_ (by omega),
    tokens_afterScalar, List.append_assoc]
  · rfl
  · intro k hk
    obtain ⟨hrequired, hline, -⟩ := keys_marked hs.keys (ne_column_of_stands hs hcolumn) k hk
    exact ⟨hrequired, hline ▸ Cursor.line_le_skip _ _⟩

/-- A scalar that is cut together with the line break leaves the place of a key behind. -/
theorem yields_scalar_crossed
    (hscalar : IsScalar m w (Writer.newLine n ++ r) true plain t (n + 1)) :
    Place.Yields ⟨w ++ (Writer.newLine n ++ r), column, m, outer, allowed⟩
      (.scalar plain t :: tokens) := by
  refine yields_scalar hscalar (Int.ofNat_le.mpr (Nat.le_of_lt hcolumn))
    fun s fuel earlier hs hfuel => ?_
  obtain ⟨-, hflow, hindent, houter, -⟩ := marked_eq s
  have hcursor := Cursor.skip_newLine (Cursor.rest_skip_of_eq hs.rest)
  rw [Cursor.skip_skip] at hcursor
  -- The scalar ends on the next line already, so its place of a key is stale at once and the lexer
  -- stands where a new line would leave it.
  let later : Lexer := { s.afterScalar true plain t (w.length + (n + 1)) with keys := [] }
  have hfound : (s.afterScalar true plain t (w.length + (n + 1))).dropStale = .ok later := by
    refine dropStale_of_behind fun k hk => ?_
    obtain ⟨hrequired, hline, -⟩ := keys_marked hs.keys (ne_column_of_stands hs hcolumn) k hk
    refine ⟨hrequired, ?_⟩
    change k.2.line < (s.cursor.skip (w.length + (n + 1))).line
    rw [hline, hcursor]
    exact Nat.lt_succ_of_le (Cursor.line_le_skip _ _)
  have hlater : later.Stands ⟨r, n, m, outer, true⟩ := by
    refine ⟨?_, ?_, hindent.trans hs.indent, houter.trans hs.outer, rfl, hflow.trans hs.flow,
      rfl⟩
    · change (s.cursor.skip (w.length + (n + 1))).rest = r
      rw [hcursor]
    · change (s.cursor.skip (w.length + (n + 1))).column = n
      rw [hcursor]
  have hat : AtToken later.cursor.rest := hlater.rest ▸ hr
  rw [List.length_append] at hfuel
  rw [run_of_ready hyields hr hlater hfound (ready_of_atToken rfl hat) hlater.flow rfl rfl rfl
    (List.forall_mem_nil _) (Nat.lt_of_le_of_lt (Nat.le_add_left _ _) hfuel)]
  change ((s.afterScalar true plain t (w.length + (n + 1))).tokens ++ tokens, none) = _
  rw [tokens_afterScalar, List.append_assoc]
  rfl

end EndOfLine

/-- A scalar that is cut at the end of a line. -/
theorem isLeaf_of_isScalar
    (hscalar : ∀ n r, AtToken r → n ≤ m →
      IsScalar m w (Writer.newLine n ++ r) false plain t 0 ∨
        IsScalar m w (Writer.newLine n ++ r) true plain t (n + 1)) :
    IsLeaf m w [.scalar plain t] := by
  rintro column outer allowed _ tokens hcolumn ⟨n, r, rfl, hn, hr, hyields⟩
  rcases hscalar n r hr hn with hscalar | hscalar
  · exact ⟨hscalar.atToken, yields_scalar_stopped hcolumn hr hyields hscalar⟩
  · exact ⟨hscalar.atToken, yields_scalar_crossed hcolumn hr hyields hscalar⟩

/-! ## Empty collections -/

/-- The brackets of an empty collection and their tokens. -/
inductive IsEmptyFlow : CodePoint → CodePoint → Token → Token → Prop
  | sequence : IsEmptyFlow (.char '[') (.char ']') .flowSequenceStart .flowSequenceEnd
  | mapping : IsEmptyFlow (.char '\x7b') (.char '\x7d') .flowMappingStart .flowMappingEnd

variable {opened closed : CodePoint} {opening closing : Token}

theorem IsEmptyFlow.isLine (hempty : IsEmptyFlow opened closed opening closing) :
    Cursor.IsLine [opened, closed] := by
  unfold Cursor.IsLine
  cases hempty <;> decide

theorem token_of_isEmptyFlow (hempty : IsEmptyFlow opened closed opening closing) (r : Text) :
    s.token opened r = s.openFlow opening ∧ s.token closed r = s.closeFlow closing := by
  cases hempty with
  | sequence | mapping => constructor <;> simp [token]

theorem atToken_of_isEmptyFlow (hempty : IsEmptyFlow opened closed opening closing) (r : Text) :
    AtToken (opened :: r) ∧ AtToken (closed :: r) := by
  cases hempty with
  | sequence | mapping =>
      refine ⟨⟨?_, atDocumentMark_cons (by decide) (by decide) r⟩,
        ⟨?_, atDocumentMark_cons (by decide) (by decide) r⟩⟩ <;>
      · rintro _ ⟨⟩
        exact ⟨⟨by decide, by decide⟩, by decide⟩

/-- The state inside of a collection that opens here. -/
def inside (s : Lexer) (opening : Token) : Lexer :=
  { s.marked with flow := s.flow + 1, keyAllowed := true }.emit opening (s.cursor.skip 1)

/-- The state after an empty collection. -/
def afterEmpty (s : Lexer) (opening closing : Token) : Lexer :=
  { (s.inside opening).emit closing (s.cursor.skip 2) with
    flow := s.flow, keyAllowed := false }

theorem openFlow_of_keys_eq_nil (hkeys : s.keys = []) :
    s.openFlow opening = .ok (s.inside opening) := by
  obtain ⟨hcursor, hflow, -⟩ := marked_eq s
  simp only [openFlow, saveKey_of_keys_eq_nil hkeys, bind, Except.bind, emitOver, hcursor, hflow]
  rfl

theorem closeFlow_inside (hkeys : ∀ k ∈ s.marked.keys, k.2.required = false ∧ k.1 = s.flow) :
    (s.inside opening).closeFlow closing = .ok (s.afterEmpty opening closing) := by
  have hkept : (s.marked.keys.filter fun key => key.1 != s.flow + 1) = s.marked.keys := by
    rw [List.filter_eq_self]
    intro k hk
    simp [(hkeys k hk).2]
  have hdrop : (s.inside opening).dropKey = .ok (s.inside opening) := by
    have hforall : ∀ k ∈ (s.inside opening).keys, k.2.required = false :=
      fun k hk => (hkeys k hk).1
    rw [dropKey_of_forall hforall]
    change Except.ok { s.inside opening with
      keys := s.marked.keys.filter fun key => key.1 != s.flow + 1 } = _
    rw [hkept]
    rfl
  have hcursor : (s.inside opening).cursor.skip 1 = s.cursor.skip 2 := Cursor.skip_skip 1 1 _
  simp only [closeFlow, hdrop, bind, Except.bind, emitOver, hcursor]
  rfl

theorem tokens_afterEmpty :
    (s.afterEmpty opening closing).tokens = s.tokens ++ [opening, closing] := by
  rw [tokens_eq]
  change Piece.tokens (.token closing :: .token opening :: s.marked.pieces) = _
  rw [Piece.tokens_token, Piece.tokens_token, ← tokens_eq, (marked_eq s).2.2.2.2]
  simp

/-- An empty collection is two tokens, whatever follows it. -/
theorem run_of_isEmptyFlow
    (hempty : IsEmptyFlow opened closed opening closing)
    (hs : s.Stands ⟨opened :: closed :: r, column, m, outer, allowed⟩) (hcolumn : m < column)
    (fuel : Nat) (earlier : Lexer) :
    run (fuel + 2) earlier s = run fuel (s.inside opening) (s.afterEmpty opening closing) := by
  have hindent : s.indent < s.cursor.column := by
    rw [hs.indent, hs.column]
    exact Int.ofNat_lt.mpr hcolumn
  have hkeys := keys_marked hs.keys (Int.ne_of_lt hindent)
  have hrest : s.cursor.rest = [opened] ++ (closed :: r) := hs.rest
  have hcursor := Cursor.skip_of_line hrest fun p hp =>
    hempty.isLine p (List.mem_append_left _ hp)
  have hinside : (s.inside opening).cursor = s.cursor.skip 1 := rfl
  have hrest' : (s.inside opening).cursor.rest = closed :: r := by
    rw [hinside, show s.cursor.skip 1 = _ from hcursor]
  -- The bracket may still begin a key, so the place of that key is kept between the two tokens.
  have hfresh : (s.inside opening).dropStale = .ok (s.inside opening) := by
    refine dropStale_of_fresh fun k hk => ?_
    obtain ⟨-, hline, hindex, -⟩ := hkeys k hk
    rw [isStale, hinside, show s.cursor.skip 1 = _ from hcursor, hline, hindex]
    simp [maxKeyLength]
  have hopen : s.token opened (closed :: r) = .ok (s.inside opening) := by
    rw [(token_of_isEmptyFlow hempty _).1, openFlow_of_keys_eq_nil hs.keys]
  have hclose : (s.inside opening).token closed r = .ok (s.afterEmpty opening closing) := by
    rw [(token_of_isEmptyFlow hempty _).2, closeFlow_inside]
    exact fun k hk => ⟨(hkeys k hk).1, (hkeys k hk).2.2.2⟩
  have hindent' : (s.inside opening).indent ≤ (s.inside opening).cursor.column := by
    change s.marked.indent ≤ ((s.cursor.skip 1).column : Int)
    rw [(marked_eq s).2.2.1, show s.cursor.skip 1 = _ from hcursor]
    simp only [List.length_singleton, Nat.cast_add, Nat.cast_one]
    omega
  rw [run_of_token (dropStale_of_keys_eq_nil hs.keys)
    (hs.rest ▸ (atToken_of_isEmptyFlow hempty _).1) hs.rest (Int.le_of_lt hindent) hopen]
  exact run_of_token hfresh (hrest' ▸ (atToken_of_isEmptyFlow hempty _).2) hrest' hindent' hclose _

theorem isLeaf_of_isEmptyFlow (hempty : IsEmptyFlow opened closed opening closing) :
    IsLeaf m [opened, closed] [opening, closing] := by
  rintro column outer allowed _ tokens hcolumn ⟨n, r, rfl, hn, hr, hyields⟩
  refine ⟨(atToken_of_isEmptyFlow hempty (closed :: (Writer.newLine n ++ r))).1, ?_⟩
  intro s hs fuel earlier hfuel
  have hlength : r.length + 2 < fuel := by
    simp only [List.length_append, List.length_cons, List.length_nil] at hfuel
    omega
  obtain ⟨fuel, rfl⟩ := Nat.exists_eq_add_of_le' (show 2 ≤ fuel by omega)
  obtain ⟨-, -, hindent, houter, -⟩ := marked_eq s
  have hnext : Place.Yields ⟨r, n, (s.afterEmpty opening closing).indent,
      (s.afterEmpty opening closing).outer, true⟩ tokens := by
    change Place.Yields ⟨r, n, s.marked.indent, s.marked.outer, true⟩ tokens
    rw [hindent, houter, hs.indent, hs.outer]
    exact hyields
  have hrest : (s.afterEmpty opening closing).cursor.rest = Writer.newLine n ++ r :=
    Cursor.rest_skip_of_eq (w := [opened, closed]) hs.rest
  rw [run_of_isEmptyFlow hempty hs hcolumn, run_of_newLine hnext hr hrest hs.flow ?_ (by omega),
    tokens_afterEmpty, List.append_assoc]
  intro k hk
  obtain ⟨hrequired, hline, -⟩ := keys_marked hs.keys (ne_column_of_stands hs hcolumn) k hk
  exact ⟨hrequired, hline ▸ Cursor.line_le_skip 2 _⟩

end Lexer

/-! ## Texts -/

namespace Writer

variable {split : Bool} {m : Nat}

theorem isPlain_of_allowsPlain (ht : allowsPlain t = true) : IsPlain t := by
  have hsimple := isSimple_of_allowsPlain ht
  simp only [allowsPlain, Bool.and_eq_true, Bool.not_eq_true', beq_iff_eq] at ht
  obtain ⟨⟨⟨⟨⟨htag, -⟩, hhead⟩, hlast⟩, hbegins⟩, hholds⟩ := ht
  refine ⟨hsimple, ?_, hhead, hlast, hbegins, hholds⟩
  rintro rfl
  cases htag

/-- A text that is not plain stands between quotes, and between them it is read back. -/
theorem exists_quoted
    (split : Bool) (column : Nat) (hm : 0 < m) (hwidth : m < width) (ht : allowsPlain t = false) :
    ∃ double w, textFrom split m column t = quote double :: (w ++ [quote double]) ∧
      ReadsQuoted double w t := by
  rcases textFrom_cases split m column t with
    ⟨hplain, -⟩ | ⟨-, hsingle, hform⟩ | ⟨-, hform⟩
  · rw [ht] at hplain
    cases hplain
  · simp only [allowsSingle, Bool.and_eq_true, Bool.not_eq_true', List.all_eq_true] at hsingle
    obtain ⟨⟨hsimple, hfeedSpace⟩, hspaceFeed⟩ := hsingle
    refine ⟨false, _, hform, ?_⟩
    refine (readsSingle_of_isSimple hm hsimple hfeedSpace hspaceFeed).quoted _ _ _ _ ?_
    rintro (h | h) <;> cases h
  · exact ⟨true, _, hform, (readsDouble _ hm hwidth t).quoted _ _ _⟩

end Writer

namespace Lexer

variable {split : Bool} {m margin : Nat}

/-- A written text is cut as one scalar in front of what ends a plain one. -/
theorem isScalar_textFrom
    (split : Bool) (column : Nat) (t : Text) (hmargin : 0 < margin) (hwidth : margin < Writer.width)
    (hsplit : split = true → indent + 1 ≤ margin) (hends : EndsPlain (indent + 1) r crossed k)
    (hr : ∀ x ∈ r.head?, x = .char '\n' ∨ x = .char ':') :
    (Writer.allowsPlain t = true ∧
        IsScalar indent (Writer.textFrom split margin column t) r crossed true t k) ∨
      (Writer.allowsPlain t = false ∧
        IsScalar indent (Writer.textFrom split margin column t) r false false t 0) := by
  cases hplain : Writer.allowsPlain t with
  | true =>
      refine .inl ⟨rfl, ?_⟩
      have hform : Writer.textFrom split margin column t =
          Writer.plainFrom split margin column false t := by
        rw [Writer.textFrom, Writer.styleOf, if_pos hplain]
      rw [hform]
      exact isScalar_plain split margin column (Writer.isPlain_of_allowsPlain hplain) hends hr
        fun h => ⟨hmargin, hsplit h⟩
  | false =>
      refine .inr ⟨rfl, ?_⟩
      obtain ⟨double, w, hw, hread⟩ :=
        Writer.exists_quoted split column hmargin hwidth hplain
      rw [hw]
      refine isScalar_quoted hread ?_
      intro hquote
      rcases hr _ hquote with h | h <;> cases h

theorem isLeaf_textFrom
    (hmargin : m < margin) (hwidth : margin < Writer.width) (t : Text) :
    IsLeaf m (Writer.textFrom true margin column t) [.scalar (Writer.allowsPlain t) t] := by
  have hends : ∀ n r, AtToken r → n ≤ m →
      EndsPlain ((m : Int) + 1) (Writer.newLine n ++ r) true (n + 1) := by
    intro n r hr hn
    exact endsPlain_newLine hr (by omega)
  have hscalar : ∀ n r, AtToken r → n ≤ m → _ := fun n r hr hn =>
    isScalar_textFrom true column t
      (Nat.zero_lt_of_lt hmargin) hwidth (fun _ => by omega) (hends n r hr hn)
      (by rintro _ ⟨⟩; exact .inl rfl)
  refine isLeaf_of_isScalar fun n r hr hn => ?_
  rcases hscalar n r hr hn with ⟨hplain, h⟩ | ⟨hplain, h⟩
  · exact .inr (hplain ▸ h)
  · exact .inl (hplain ▸ h)

/-- A plain word is cut as it is. -/
theorem isLeaf_plain (ht : IsPlain t) : IsLeaf m t [.scalar true t] := by
  refine isLeaf_of_isScalar fun n r hr hn => .inr ?_
  have hends : EndsPlain ((m : Int) + 1) (Writer.newLine n ++ r) true (n + 1) :=
    endsPlain_newLine hr (by omega)
  have hscalar := isScalar_plain false 0 0 ht hends
    (by rintro _ ⟨⟩; exact .inl rfl) nofun
  rwa [Writer.plainFrom_false] at hscalar

/-! ## Keys -/

theorem token_colon (hflow : s.flow = 0) (hr : Yaml.atGap r = true) :
    s.token (.char ':') r = s.colon := by
  simp [token, hflow, hr]

theorem atToken_colon (r : Text) : AtToken (.char ':' :: r) := by
  refine ⟨?_, atDocumentMark_cons (by decide) (by decide) r⟩
  rintro _ ⟨⟩
  exact ⟨⟨by decide, by decide⟩, by decide⟩

variable {after : List Int} {added : List Token}

/-- A colon makes a key of the scalar in front of it, and may open a mapping at its column. -/
theorem exists_colon
    (plain : Bool) (t : Text) (hs : s.Stands ⟨w ++ .char ':' :: r, column, indent, outer, true⟩)
    (hopens : Opens .blockMappingStart column indent outer after added)
    (hline : Cursor.IsLine w) :
    ∃ next, (s.afterScalar false plain t w.length).colon = .ok next ∧
      next.Stands ⟨r, column + w.length + 1, column, after, false⟩ ∧
      next.tokens = s.tokens ++ (added ++ [.key, .scalar plain t, .value]) := by
  obtain ⟨cursor, flow, indent', outer', allowed, keys, pieces, slots⟩ := s
  obtain ⟨hrest, hcolumn, hindent, houter, hallowed, hflow, hkeys⟩ := hs
  dsimp only at hrest hcolumn hindent houter hallowed hflow hkeys
  subst hcolumn hindent houter hallowed hflow hkeys
  have hskip : (cursor.skip w.length).skip 1 =
      ⟨r, cursor.index + w.length + 1, cursor.line, cursor.column + w.length + 1⟩ := by
    rw [Cursor.skip_of_line hrest hline]
    rfl
  let next : Lexer :=
    ⟨(cursor.skip w.length).skip 1, 0, cursor.column, after, false, [],
      .token .value :: .token (.scalar plain t) ::
        ((added ++ [Token.key]).reverse.map .token ++ pieces),
      slots + 1⟩
  refine ⟨next, ?_, ⟨?_, ?_, rfl, rfl, rfl, rfl, rfl⟩, ?_⟩
  · cases hopens with
    | goesOn =>
        simp [next, colon, afterScalar, marked, emit, currentKey?, keyStart, beginsBlock, emitOver,
          fill]
    | begins _ hlt =>
        simp [next, colon, afterScalar, marked, emit, currentKey?, keyStart, beginsBlock, emitOver,
          fill, indentTo, hlt]
  · simp [next, hskip]
  · simp [next, hskip]
  · simp [next, tokens]

end Lexer

/-- A scalar that is short enough is cut as a key, with the colon behind it. -/
theorem Place.yields_key
    (hscalar : Lexer.IsScalar indent w (.char ':' :: r) false plain t 0)
    (hopens : Opens .blockMappingStart column indent outer after added)
    (hline : Cursor.IsLine w) (hlength : w.length ≤ Lexer.maxKeyLength) (hr : atGap r = true)
    (hyields : Place.Yields ⟨r, column + w.length + 1, column, after, false⟩ tokens) :
    Place.Yields ⟨w ++ .char ':' :: r, column, indent, outer, true⟩
      (added ++ .key :: .scalar plain t :: .value :: tokens) := by
  refine Lexer.yields_scalar hscalar hopens.le fun s fuel earlier hs hfuel => ?_
  obtain ⟨fuel, rfl⟩ := Nat.exists_eq_add_one_of_ne_zero (Nat.ne_of_gt (Nat.zero_lt_of_lt hfuel))
  obtain ⟨next, hcolon, hnext, htokens⟩ :=
    Lexer.exists_colon plain t hs hopens hline
  have hcursor := Cursor.skip_of_line hs.rest hline
  have hkeys : s.marked.keys = [(s.flow, s.keyStart)] := by
    rw [Lexer.marked, if_pos hs.allowed]
  -- The place of the key is kept up to the colon only because the key is not too long.
  have hfresh : (s.afterScalar false plain t w.length).dropStale =
      .ok (s.afterScalar false plain t w.length) := by
    refine Lexer.dropStale_of_fresh fun k hk => ?_
    obtain rfl : k = (s.flow, s.keyStart) := List.mem_singleton.mp (hkeys ▸ hk)
    change (s.cursor.line != (s.cursor.skip w.length).line ||
      decide ((s.cursor.skip w.length).index - s.cursor.index > Lexer.maxKeyLength)) = false
    rw [hcursor]
    simp only [bne_self_eq_false, Bool.false_or, decide_eq_false_iff_not]
    omega
  have hrest : (s.afterScalar false plain t w.length).cursor.rest = .char ':' :: r :=
    Cursor.rest_skip_of_eq hs.rest
  have hindent : (s.afterScalar false plain t w.length).indent ≤
      (s.afterScalar false plain t w.length).cursor.column := by
    change s.marked.indent ≤ ((s.cursor.skip w.length).column : Int)
    have hle := hopens.le
    rw [(Lexer.marked_eq s).2.2.1, hs.indent, hcursor, hs.column]
    simp only [Nat.cast_add]
    omega
  have hflow : (s.afterScalar false plain t w.length).flow = 0 :=
    (Lexer.marked_eq s).2.1.trans hs.flow
  change Lexer.run (fuel + 1) earlier (s.afterScalar false plain t w.length) = _
  rw [Lexer.run_of_token hfresh (hrest ▸ Lexer.atToken_colon r) hrest hindent
    ((Lexer.token_colon hflow hr).trans hcolon)]
  rw [hyields next hnext fuel _ (Nat.lt_of_succ_lt_succ hfuel), htokens]
  simp

end Yaml
end ActorManifest
