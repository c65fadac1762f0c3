import ActorManifest.Proofs.Yaml.Plain
import ActorManifest.Yaml.Token.Lexer

/-!
# Cutting what is written

The lexer is followed from the end of a text to its start.  A place tells all of its state that
matters for what is still to be cut, and it yields tokens if these are cut from there on, whatever
was cut before.  Each lemma puts a piece of text, and the tokens that are cut from it, in front
of a place that yields others.
-/

namespace ActorManifest
namespace Yaml

/-! ## Pieces -/

/-- The tokens among pieces, the last piece first. -/
def Piece.tokens (pieces : List Piece) : List Token :=
  pieces.reverse.filterMap fun
    | .token t => some t
    | .slot _ => none

@[simp] theorem Piece.tokens_token (t : Token) (pieces : List Piece) :
    Piece.tokens (.token t :: pieces) = Piece.tokens pieces ++ [t] := by
  simp [Piece.tokens]

@[simp] theorem Piece.tokens_slot (number : Nat) (pieces : List Piece) :
    Piece.tokens (.slot number :: pieces) = Piece.tokens pieces := by
  simp [Piece.tokens]

/-- Where a lexer stands outside of flow collections. -/
structure Place where
  rest : Text
  column : Nat
  /-- The indentation of the innermost block collection. -/
  indent : Int
  /-- The indentations around it, the innermost first. -/
  outer : List Int
  /-- Whether a key may begin here. -/
  allowed : Bool

namespace Lexer

variable {s ready : Lexer} {fuel : Nat} {r : Text} {n : Nat}

theorem tokens_eq (s : Lexer) : s.tokens = Piece.tokens s.pieces := rfl

/-- The lexer stands at a place where no key may have begun. -/
structure Stands (s : Lexer) (p : Place) : Prop where
  rest : s.cursor.rest = p.rest
  column : s.cursor.column = p.column
  indent : s.indent = p.indent
  outer : s.outer = p.outer
  allowed : s.keyAllowed = p.allowed
  flow : s.flow = 0
  keys : s.keys = []

end Lexer

/-- From the place on, the text is cut into tokens up to its end. -/
def Place.Yields (p : Place) (tokens : List Token) : Prop :=
  ∀ s : Lexer, s.Stands p → ∀ fuel earlier, p.rest.length < fuel →
    Lexer.run fuel earlier s = (s.tokens ++ tokens, none)

namespace Lexer

variable {s ready : Lexer} {fuel : Nat} {r : Text} {n : Nat}

/-! ## Finding the next token -/

theorem dropStale_of_keys_eq_nil (hkeys : s.keys = []) : s.dropStale = .ok s := by
  obtain ⟨cursor, flow, indent, outer, allowed, keys, pieces, slots⟩ := s
  cases hkeys
  rfl

theorem toNextToken_spaces
    (hrest : s.cursor.rest = Writer.spaces n ++ r) (hr : AtToken r) :
    s.toNextToken (fuel + 1) = { s with cursor := s.cursor.skip n } := by
  have hhead : ∀ p, r.head? = some p → isBlank p = false ∧ isBreak p = false ∧ p ≠ .char '#' :=
    fun p hp => ⟨(hr.head p hp).1.1, (hr.head p hp).1.2, (hr.head p hp).2⟩
  have hspaces : s.cursor.skipSpaces = s.cursor.skip n := by
    refine Cursor.skipSpaces_of_append hrest ?_
    intro hspace
    exact absurd (hhead _ hspace).1 (by decide)
  have hlength : (Writer.spaces n).length = n := List.length_replicate
  have hskip : (s.cursor.skip n).rest = r := hlength ▸ Cursor.rest_skip_of_eq hrest
  have hcomment : (s.cursor.skip n).skipComment = s.cursor.skip n := by
    rw [Cursor.skipComment, hskip, if_neg]
    intro hsign
    exact (hhead _ hsign).2.2 rfl
  have hbreak : r.head?.any isBreak = false := by
    cases r with
    | nil => rfl
    | cons p r => exact (hhead p rfl).2.1
  rw [toNextToken, hspaces, hcomment, hskip, hbreak, if_neg Bool.false_ne_true]

theorem toNextToken_newLine
    (hrest : s.cursor.rest = Writer.newLine n ++ r) (hr : AtToken r) (hflow : s.flow = 0) :
    s.toNextToken (fuel + 2) =
      { s with cursor := s.cursor.skip (n + 1), keyAllowed := true } := by
  have hspaces : s.cursor.skipSpaces = s.cursor :=
    Cursor.skipSpaces_of_append (n := 0) hrest nofun
  have hcomment : s.cursor.skipComment = s.cursor := by
    rw [Cursor.skipComment, hrest, if_neg nofun]
  have hbreak : (Writer.newLine n ++ r).head?.any isBreak = true := rfl
  have hallowed : (s.keyAllowed || s.flow == 0) = true := by
    rw [hflow]
    exact Bool.or_true _
  have hnext : s.cursor.next.rest = Writer.spaces n ++ r := by
    rw [Cursor.rest_next, hrest]
    rfl
  rw [toNextToken, hspaces, hcomment, hrest, hbreak, if_pos rfl, hallowed]
  exact toNextToken_spaces hnext hr

/-- What a step does once the next token is found. -/
def take (s : Lexer) : Except Fault (Option Lexer) := do
  let s := s.closeBlocks s.cursor.column
  match s.cursor.rest with
  | [] => return none
  | p :: rest => return some (← s.token p rest)

theorem step_eq_take
    (hready : (s.toNextToken (s.cursor.rest.length + 1)).dropStale = .ok ready) :
    s.step = ready.take := by
  rw [step, hready]
  rfl

/-- Where no token is open, the state is ready for the next step. -/
theorem ready_of_atToken (hkeys : s.keys = []) (hrest : AtToken s.cursor.rest) :
    (s.toNextToken (s.cursor.rest.length + 1)).dropStale = .ok s := by
  rw [toNextToken_spaces (n := 0) rfl hrest]
  exact dropStale_of_keys_eq_nil hkeys

/-! ## Runs -/

/-- A run that succeeds does not depend on the state in front of its last token. -/
theorem run_of_earlier
    {earlier other : Lexer} {tokens : List Token} (hrun : run fuel earlier s = (tokens, none)) :
    run fuel other s = (tokens, none) := by
  cases fuel with
  | zero => exact hrun
  | succ fuel =>
      rw [run] at hrun ⊢
      split at hrun
      · cases hrun
      · exact hrun

theorem dropKey_of_forall (hkeys : ∀ k ∈ s.keys, k.2.required = false) :
    s.dropKey = .ok { s with keys := s.keys.filter fun (level, _) => level != s.flow } := by
  have hcurrent : s.currentKey?.any KeyStart.required = false := by
    rw [currentKey?, Option.any_map]
    cases hfind : s.keys.find? fun (level, _) => level == s.flow with
    | none => rfl
    | some k => exact hkeys k (List.mem_of_find?_eq_some hfind)
  rw [dropKey, hcurrent, if_neg Bool.false_ne_true]

theorem pieces_of_dropKey {t : Lexer} (hdrop : s.dropKey = .ok t) : t.pieces = s.pieces := by
  unfold dropKey at hdrop
  split at hdrop
  · cases hdrop
  · cases hdrop
    rfl

theorem close_congr
    (column : Int) (outer : List Int) {s t : Lexer} (hindent : s.indent = t.indent)
    (hpieces : s.pieces = t.pieces) :
    (closeBlocks.close column outer s).pieces = (closeBlocks.close column outer t).pieces ∧
      (closeBlocks.close column outer s).keys = s.keys := by
  induction outer generalizing s t with
  | nil => exact ⟨hpieces, rfl⟩
  | cons around outer ih =>
      rw [closeBlocks.close, closeBlocks.close, hindent]
      split
      · exact ih rfl (by simp only [emitHere, emit, hpieces])
      · exact ⟨hpieces, rfl⟩

/-- Two states that differ in their cursor and in keys that may be dropped close the same
collections at the end. -/
theorem exists_finish_eq
    {t : Lexer} (hflow : s.flow = 0) (hflow' : t.flow = 0) (hindent : s.indent = t.indent)
    (houter : s.outer = t.outer) (hpieces : s.pieces = t.pieces)
    (hkeys : ∀ k ∈ s.keys, k.2.required = false) {last : Lexer} (hlast : t.finish = .ok last) :
    ∃ other, s.finish = .ok other ∧ other.tokens = last.tokens := by
  obtain ⟨hclosed, hsame⟩ := close_congr (-1) s.outer hindent hpieces
  rw [finish, closeBlocks, if_pos hflow'] at hlast
  rw [finish, closeBlocks, if_pos hflow, dropKey_of_forall (hsame ▸ hkeys)]
  refine ⟨_, rfl, ?_⟩
  rw [tokens_eq, tokens_eq, pieces_of_dropKey hlast, ← houter, ← hclosed]

/-- A state from which a place is reached goes on as that place does. -/
theorem run_of_ready
    {p : Place} {tokens : List Token} (hyields : p.Yields tokens) (hp : AtToken p.rest)
    (hready : ready.Stands p) {found : Lexer} (hfound : s.dropStale = .ok found)
    (hnext : (found.toNextToken (found.cursor.rest.length + 1)).dropStale = .ok ready)
    (hflow : found.flow = 0) (hindent : found.indent = ready.indent)
    (houter : found.outer = ready.outer) (hpieces : found.pieces = ready.pieces)
    (hkeys : ∀ k ∈ found.keys, k.2.required = false)
    (hfuel : p.rest.length < fuel) (earlier : Lexer) :
    run fuel earlier s = (ready.tokens ++ tokens, none) := by
  obtain ⟨fuel, rfl⟩ := Nat.exists_eq_add_one_of_ne_zero (Nat.ne_of_gt (Nat.zero_lt_of_lt hfuel))
  have hrun := hyields ready hready (fuel + 1) earlier hfuel
  have hself := ready_of_atToken hready.keys (hready.rest ▸ hp)
  rw [run, dropStale_of_keys_eq_nil hready.keys] at hrun
  dsimp only at hrun
  rw [step_eq_take hself] at hrun
  rw [run, hfound]
  dsimp only
  rw [step_eq_take hnext]
  cases htake : ready.take with
  | error fault =>
      rw [htake] at hrun
      exact nomatch (Prod.mk.inj hrun).2
  | ok next =>
      rw [htake] at hrun
      cases next with
      | some next => exact run_of_earlier hrun
      | none =>
          dsimp only at hrun ⊢
          cases hlast : ready.finish with
          | error fault =>
              rw [hlast] at hrun
              exact nomatch (Prod.mk.inj hrun).2
          | ok last =>
              rw [hlast] at hrun
              obtain ⟨other, hother, htokens⟩ :=
                exists_finish_eq hflow hready.flow hindent houter hpieces hkeys hlast
              rw [hother]
              dsimp only at hrun ⊢
              rw [htokens]
              exact hrun

end Lexer

/-! ## Between tokens -/

namespace Place

variable {p : Place} {r : Text} {n column : Nat} {indent : Int} {outer : List Int}
  {allowed : Bool} {tokens : List Token}

theorem yields_spaces
    (hyields : Yields ⟨r, column + n, indent, outer, allowed⟩ tokens) (hr : AtToken r) :
    Yields ⟨Writer.spaces n ++ r, column, indent, outer, allowed⟩ tokens := by
  intro s hs fuel earlier hfuel
  have hline := Cursor.skip_of_line hs.rest (Cursor.isLine_spaces n)
  have hlength : (Writer.spaces n).length = n := List.length_replicate
  rw [hlength] at hline
  have hnext : (s.toNextToken (s.cursor.rest.length + 1)).dropStale =
      .ok { s with cursor := s.cursor.skip n } := by
    rw [Lexer.toNextToken_spaces hs.rest hr]
    exact Lexer.dropStale_of_keys_eq_nil hs.keys
  have hstands : ({ s with cursor := s.cursor.skip n } : Lexer).Stands
      ⟨r, column + n, indent, outer, allowed⟩ := by
    refine ⟨?_, ?_, hs.indent, hs.outer, hs.allowed, hs.flow, hs.keys⟩
    · rw [hline]
    · rw [hline, hs.column]
  refine Lexer.run_of_ready hyields hr hstands (Lexer.dropStale_of_keys_eq_nil hs.keys) hnext
    hs.flow rfl rfl rfl (by simp [hs.keys]) ?_ earlier
  simp only [List.length_append] at hfuel
  dsimp only
  omega

end Place

namespace Lexer

variable {s next : Lexer} {fuel n : Nat} {r : Text} {c : CodePoint} {tokens : List Token}

theorem dropStale_of_forall (hkeys : ∀ k ∈ s.keys, k.2.required = false) :
    s.dropStale = .ok { s with keys := s.keys.filter fun (_, k) => !s.isStale k } := by
  have hnone : (s.keys.any fun (_, k) => s.isStale k && k.required) = false := by
    rw [List.any_eq_false]
    intro k hk
    simp [hkeys k hk]
  rw [dropStale, hnone, if_neg Bool.false_ne_true]

/-- The places of keys on lines before this one are dropped. -/
theorem dropStale_of_behind
    (hkeys : ∀ k ∈ s.keys, k.2.required = false ∧ k.2.line < s.cursor.line) :
    s.dropStale = .ok { s with keys := [] } := by
  have hstale : (s.keys.filter fun (_, k) => !s.isStale k) = [] := by
    rw [List.filter_eq_nil_iff]
    intro k hk
    have hline := Nat.ne_of_lt (hkeys k hk).2
    simp [isStale, hline]
  rw [dropStale_of_forall fun k hk => (hkeys k hk).1, hstale]

/-- Behind a line break the places of keys are dropped, and a key may begin. -/
theorem run_of_newLine
    (hyields : Place.Yields ⟨r, n, s.indent, s.outer, true⟩ tokens) (hr : AtToken r)
    (hrest : s.cursor.rest = Writer.newLine n ++ r) (hflow : s.flow = 0)
    (hkeys : ∀ k ∈ s.keys, k.2.required = false ∧ k.2.line ≤ s.cursor.line)
    (hfuel : r.length < fuel) (earlier : Lexer) :
    run fuel earlier s = (s.tokens ++ tokens, none) := by
  have hrequired : ∀ k ∈ s.keys, k.2.required = false := fun k hk => (hkeys k hk).1
  -- Places of keys are dropped twice: what is stale before the break goes first, and behind it
  -- all others do, as they stand on an earlier line.
  let found : Lexer := { s with keys := s.keys.filter fun (_, k) => !s.isStale k }
  let later : Lexer := { found with cursor := s.cursor.skip (n + 1), keyAllowed := true }
  have hcursor := Cursor.skip_newLine hrest
  have hnext : found.toNextToken (found.cursor.rest.length + 1) = later := by
    have hlong : found.cursor.rest.length = (n + r.length) + 1 := by
      simp only [found, hrest, Writer.newLine, Writer.spaces, List.length_append,
        List.length_cons, List.length_replicate]
      omega
    rw [hlong]
    exact toNextToken_newLine hrest hr hflow
  have hbehind : ∀ k ∈ later.keys, k.2.required = false ∧ k.2.line < later.cursor.line := by
    intro k hk
    obtain ⟨hnot, hline⟩ := hkeys k (List.mem_of_mem_filter hk)
    refine ⟨hnot, ?_⟩
    simp only [later, hcursor]
    omega
  have hstands : ({ later with keys := [] } : Lexer).Stands ⟨r, n, s.indent, s.outer, true⟩ := by
    refine ⟨?_, ?_, rfl, rfl, rfl, hflow, rfl⟩
    · simp only [later, hcursor]
    · simp only [later, hcursor]
  exact run_of_ready hyields hr hstands (dropStale_of_forall hrequired)
    (by rw [hnext, dropStale_of_behind hbehind]) hflow rfl rfl rfl
    (fun k hk => hrequired k (List.mem_of_mem_filter hk)) hfuel earlier

/-- The state after the innermost block collection is closed. -/
def closeOne (s : Lexer) (around : Int) (outer : List Int) : Lexer :=
  { s with indent := around, outer }.emitHere .blockEnd

theorem closeBlocks_of_lt
    {column around : Int} {outer : List Int} (hflow : s.flow = 0)
    (houter : s.outer = around :: outer) (hcolumn : column < s.indent) :
    s.closeBlocks column = (s.closeOne around outer).closeBlocks column := by
  have hflow' : (s.closeOne around outer).flow = 0 := hflow
  rw [closeBlocks, if_pos hflow, houter, closeBlocks.close, if_pos hcolumn, closeBlocks,
    if_pos hflow']
  rfl

theorem closeBlocks_of_le (hindent : s.indent ≤ s.cursor.column) :
    s.closeBlocks s.cursor.column = s := by
  unfold closeBlocks
  split
  · cases s.outer with
    | nil => rfl
    | cons around outer => rw [closeBlocks.close, if_neg (Int.not_lt.mpr hindent)]
  · rfl

/-- A run goes on behind a token. -/
theorem run_of_token
    (hkeys : s.dropStale = .ok s) (hat : AtToken s.cursor.rest)
    (hrest : s.cursor.rest = c :: r) (hindent : s.indent ≤ s.cursor.column)
    (htoken : s.token c r = .ok next) (earlier : Lexer) :
    run (fuel + 1) earlier s = run fuel s next := by
  have hready : (s.toNextToken (s.cursor.rest.length + 1)).dropStale = .ok s := by
    rw [toNextToken_spaces (n := 0) rfl hat]
    exact hkeys
  have htake : s.take = .ok (some next) := by
    simp only [take, closeBlocks_of_le hindent, hrest, htoken, bind, Except.bind, pure, Except.pure]
  rw [run, hkeys]
  dsimp only
  rw [step_eq_take hready, htake]

end Lexer

namespace Place

variable {p later : Place} {c : CodePoint} {r : Text} {n column : Nat} {indent around : Int}
  {outer : List Int} {allowed : Bool} {tokens added : List Token}

theorem yields_newLine
    (hyields : Yields ⟨r, n, indent, outer, true⟩ tokens) (hr : AtToken r) :
    Yields ⟨Writer.newLine n ++ r, column, indent, outer, allowed⟩ tokens := by
  intro s hs fuel earlier hfuel
  have hyields' : Yields ⟨r, n, s.indent, s.outer, true⟩ tokens := by
    rw [hs.indent, hs.outer]
    exact hyields
  refine Lexer.run_of_newLine hyields' hr hs.rest hs.flow (by simp [hs.keys]) ?_ earlier
  simp only [List.length_append] at hfuel
  omega

/-- A block collection ends in front of a token that is further to the left. -/
theorem yields_close
    (hyields : Yields ⟨r, column, around, outer, allowed⟩ tokens) (hr : AtToken r)
    (hcolumn : (column : Int) < indent) :
    Yields ⟨r, column, indent, around :: outer, allowed⟩ (.blockEnd :: tokens) := by
  intro s hs fuel earlier hfuel
  obtain ⟨fuel, rfl⟩ := Nat.exists_eq_add_one_of_ne_zero (Nat.ne_of_gt (Nat.zero_lt_of_lt hfuel))
  -- The run from `s` and the run from `closed` take the same next step: `s` first closes the block
  -- that `closed` has closed already.  Only the token of that end tells them apart.
  let closed := s.closeOne around outer
  have hclosed : closed.Stands ⟨r, column, around, outer, allowed⟩ :=
    ⟨hs.rest, hs.column, rfl, rfl, hs.allowed, hs.flow, hs.keys⟩
  have hrun := hyields closed hclosed (fuel + 1) earlier hfuel
  have htokens : closed.tokens ++ tokens = s.tokens ++ .blockEnd :: tokens := by
    rw [Lexer.tokens_eq, Lexer.tokens_eq]
    simp [closed, Lexer.closeOne, Lexer.emitHere, Lexer.emit]
  have htake : s.take = closed.take := by
    have hblocks : s.closeBlocks s.cursor.column = closed.closeBlocks closed.cursor.column := by
      refine Lexer.closeBlocks_of_lt hs.flow hs.outer ?_
      rw [hs.column, hs.indent]
      exact hcolumn
    rw [Lexer.take, hblocks]
    rfl
  have hfinish : s.finish = closed.finish := by
    have hindent : (-1 : Int) < s.indent := by
      rw [hs.indent]
      dsimp only
      omega
    rw [Lexer.finish, Lexer.closeBlocks_of_lt hs.flow hs.outer hindent]
    rfl
  rw [Lexer.run, Lexer.dropStale_of_keys_eq_nil hclosed.keys] at hrun
  rw [Lexer.run, Lexer.dropStale_of_keys_eq_nil hs.keys]
  dsimp only at hrun ⊢
  rw [Lexer.step_eq_take (Lexer.ready_of_atToken hclosed.keys (hclosed.rest ▸ hr))] at hrun
  rw [Lexer.step_eq_take (Lexer.ready_of_atToken hs.keys (hs.rest ▸ hr)), htake, hfinish,
    ← htokens]
  cases htaken : closed.take with
  | error fault =>
      rw [htaken] at hrun
      exact nomatch (Prod.mk.inj hrun).2
  | ok next =>
      rw [htaken] at hrun
      cases next with
      | some next => exact Lexer.run_of_earlier hrun
      | none =>
          dsimp only at hrun ⊢
          cases hlast : closed.finish with
          | error fault =>
              rw [hlast] at hrun
              exact nomatch (Prod.mk.inj hrun).2
          | ok last =>
              rw [hlast] at hrun
              exact hrun

/-- A token that leads from one place to another is put in front of what is cut from there. -/
theorem Yields.of_token
    (hyields : later.Yields tokens) (hp : AtToken p.rest) (hrest : p.rest = c :: r)
    (hindent : p.indent ≤ p.column) (hshort : later.rest.length ≤ r.length)
    (htoken : ∀ s : Lexer, s.Stands p → ∃ next, s.token c r = .ok next ∧ next.Stands later ∧
      next.tokens = s.tokens ++ added) : p.Yields (added ++ tokens) := by
  -- One unit of fuel pays for the token, and the text left is at least its first sign shorter.
  intro s hs fuel earlier hfuel
  obtain ⟨fuel, rfl⟩ := Nat.exists_eq_add_one_of_ne_zero (Nat.ne_of_gt (Nat.zero_lt_of_lt hfuel))
  obtain ⟨next, htoken, hnext, htokens⟩ := htoken s hs
  rw [Lexer.run_of_token (Lexer.dropStale_of_keys_eq_nil hs.keys) (hs.rest ▸ hp)
    (hs.rest.trans hrest) (by rw [hs.indent, hs.column]; exact hindent) htoken]
  rw [hrest, List.length_cons] at hfuel
  rw [hyields next hnext fuel s (by omega), htokens, List.append_assoc]

end Place

/-! ## Marks -/

/-- Where a block collection begins or goes on at a column: the indentation and those around
it in front of its first token, those around it behind, and the token that opens it if any. -/
inductive Opens (opening : Token) (column : Nat) : Int → List Int → List Int → List Token → Prop
  | goesOn (outer : List Int) : Opens opening column column outer outer []
  | begins {indent : Int} (outer : List Int) (hindent : indent < column) :
      Opens opening column indent outer (indent :: outer) [opening]

variable {opening mark : Token} {column : Nat} {indent : Int} {outer after : List Int}
  {added tokens : List Token} {c : CodePoint} {r : Text}

theorem Opens.le (hopens : Opens opening column indent outer after added) : indent ≤ column := by
  cases hopens with
  | goesOn => exact Int.le_refl _
  | begins _ hindent => exact Int.le_of_lt hindent

namespace Lexer

variable {s : Lexer}

theorem openBlock_of_opens
    {p : Place} (hs : s.Stands p) (hopens : Opens opening p.column p.indent p.outer after added) :
    (s.openBlock opening).Stands { p with indent := p.column, outer := after } ∧
      (s.openBlock opening).tokens = s.tokens ++ added := by
  obtain ⟨rest, column, indent, outer, allowed⟩ := p
  obtain ⟨hrest, hcolumn, hindent, houter, hallowed, hflow, hkeys⟩ := hs
  dsimp only at hopens hcolumn hindent houter
  cases hopens with
  | goesOn =>
      have hnone : s.beginsBlock s.cursor.column = false := by
        simp [beginsBlock, hindent, hcolumn]
      rw [openBlock, hnone]
      exact ⟨⟨hrest, hcolumn, hindent, houter, hallowed, hflow, hkeys⟩, (List.append_nil _).symm⟩
  | begins _ hlt =>
      have hbegins : s.beginsBlock s.cursor.column = true := by
        simp [beginsBlock, hflow, hindent, hcolumn, hlt]
      rw [openBlock, hbegins]
      refine ⟨⟨hrest, hcolumn, ?_, ?_, hallowed, hflow, hkeys⟩, ?_⟩
      · simp [indentTo, emitHere, emit, hcolumn]
      · simp [indentTo, emitHere, emit, hindent, houter]
      · simp [tokens_eq, indentTo, emitHere, emit]

theorem exists_blockMark
    (hs : s.Stands ⟨c :: r, column, indent, outer, true⟩)
    (hopens : Opens opening column indent outer after added)
    (hc : isBreak c = false ∧ c ≠ .char '\uFEFF') :
    ∃ next, s.blockMark opening mark true = .ok next ∧
      next.Stands ⟨r, column + 1, column, after, true⟩ ∧
      next.tokens = s.tokens ++ (added ++ [mark]) := by
  obtain ⟨hopened, htokens⟩ := openBlock_of_opens hs hopens
  let ready : Lexer := { s.openBlock opening with keyAllowed := true }
  have hmisplaced : ¬(s.flow = 0 ∧ s.keyAllowed = false) := by
    rw [hs.allowed]
    rintro ⟨-, ⟨⟩⟩
  have hdrop : ready.dropKey = .ok ready := by
    rw [dropKey_of_forall (by simp [ready, hopened.keys])]
    simp [ready, hopened.keys]
  have hnext : ready.cursor.next = ⟨r, ready.cursor.index + 1, ready.cursor.line, column + 1⟩ := by
    rw [Cursor.next_of_line hopened.rest hc,
      ← show ready.cursor.column = column from hopened.column]
  refine ⟨ready.emitOver mark 1, ?_, ⟨?_, ?_, ?_, ?_, rfl, ?_, ?_⟩, ?_⟩
  · rw [blockMark, if_neg hmisplaced]
    have hdrop' : ({ s.openBlock opening with keyAllowed := true } : Lexer).dropKey =
        .ok ready := hdrop
    simp only [bind, Except.bind, pure, Except.pure, hdrop']
  · change ready.cursor.next.rest = r
    rw [hnext]
  · change ready.cursor.next.column = column + 1
    rw [hnext]
  · exact hopened.indent
  · exact hopened.outer
  · exact hopened.flow
  · exact hopened.keys
  · rw [tokens_eq]
    change Piece.tokens (.token mark :: (s.openBlock opening).pieces) = _
    rw [Piece.tokens_token, ← tokens_eq, htokens, List.append_assoc]

/-- The marks of an entry, of a key and of a value, the tokens that they open a collection
with, and their own tokens. -/
inductive IsMark : CodePoint → Token → Token → Prop
  | entry : IsMark (.char '-') .blockSequenceStart .blockEntry
  | key : IsMark (.char '?') .blockMappingStart .key
  | value : IsMark (.char ':') .blockMappingStart .value

theorem token_of_isMark
    (hmark : IsMark c opening mark)
    (hs : s.Stands ⟨c :: .char ' ' :: r, column, indent, outer, true⟩) :
    s.token c (.char ' ' :: r) = s.blockMark opening mark true := by
  have hnone : s.currentKey? = none := by
    simp [currentKey?, hs.keys]
  cases hmark with
  | entry => simp [token, atDocumentMark, Text.ofString, atGap, isBlank]
  | key => simp [token, atGap, isBlank, hs.flow]
  | value => simp [token, atGap, isBlank, colon, hnone, hs.flow]

theorem atToken_of_isMark (hmark : IsMark c opening mark) (r : Text) :
    AtToken (c :: .char ' ' :: r) := by
  cases hmark with
  | entry | key | value =>
      refine ⟨?_, by simp [atDocumentMark, Text.ofString]⟩
      rintro _ ⟨⟩
      exact ⟨⟨by decide, by decide⟩, by decide⟩

end Lexer

namespace Place

/-- A mark and the space behind it are put in front of what is cut from there. -/
theorem yields_mark
    (hmark : Lexer.IsMark c opening mark)
    (hopens : Opens opening column indent outer after added) (hr : AtToken r)
    (hyields : Yields ⟨r, column + 2, column, after, true⟩ tokens) :
    Yields ⟨c :: .char ' ' :: r, column, indent, outer, true⟩ (added ++ mark :: tokens) := by
  have hc : isBreak c = false ∧ c ≠ .char '\uFEFF' := by
    cases hmark <;> decide
  have hspace : Yields ⟨.char ' ' :: r, column + 1, column, after, true⟩ tokens :=
    yields_spaces (n := 1) hyields hr
  rw [List.append_cons]
  refine hspace.of_token (p := ⟨c :: .char ' ' :: r, column, indent, outer, true⟩)
    (Lexer.atToken_of_isMark hmark r) rfl hopens.le (Nat.le_refl _) ?_
  intro s hs
  rw [Lexer.token_of_isMark hmark hs]
  exact Lexer.exists_blockMark hs hopens hc

end Place

end Yaml
end ActorManifest
