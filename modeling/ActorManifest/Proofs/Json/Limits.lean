import ActorManifest.Proofs.Document.Showable
import ActorManifest.Proofs.Fields
import ActorManifest.Proofs.Json.Number
import Mathlib.Data.List.TakeWhile

/-!
# The limits of reading JSON

The reader gives up on a text for two reasons that are no flaws of it: a whole number has too
many digits, or arrays and objects are nested too deeply.  Both show in the text, as a run of
digits or as a number of brackets.  The fuel of the reader is no third reason, since it lasts
for every text.  What is read has short numbers and no more levels than may be opened, so all of
it can be shown, and its objects have no two fields of one name.
-/

namespace ActorManifest

open Text

/-! ## Numerals -/

theorem exists_digits {t : Text} (ht : ∀ c ∈ t, c.isAsciiDigit = true) :
    ∃ ds : List Nat, (∀ d ∈ ds, d < 10) ∧ t = ds.map digit := by
  induction t with
  | nil => exact ⟨[], List.forall_mem_nil _, rfl⟩
  | cons c rest ih =>
      obtain ⟨d, hd, rfl⟩ := exists_digit_of_isAsciiDigit (ht c List.mem_cons_self)
      obtain ⟨ds, hds, rfl⟩ := ih fun c hc => ht c (List.mem_cons_of_mem _ hc)
      exact ⟨d :: ds, List.forall_mem_cons.mpr ⟨hd, hds⟩, rfl⟩

theorem Integer.ofDigits_lt_pow {ds : List Nat} (hds : ∀ d ∈ ds, d < 10) :
    ofDigits 10 ds < 10 ^ ds.length := by
  induction ds using List.reverseRecOn with
  | nil => simp [ofDigits]
  | append_singleton ds d ih =>
      have hlast : d < 10 := hds d (by simp)
      have hbefore := ih fun e he => hds e (List.mem_append_left [d] he)
      simp only [ofDigits, List.foldl_append, List.foldl_cons, List.foldl_nil,
        List.length_append, List.length_singleton, Nat.pow_succ] at hbefore ⊢
      omega

/-- A numeral that is read has few enough digits for its number to be written, and one that is
not read has more. -/
theorem Integer.read?_digits
    {t : Text} (ht : ∀ c ∈ t, c.isAsciiDigit = true) (hne : t ≠ []) (negative : Bool) :
    (∀ n, read? 10 (signText negative ++ t) = some n → isWritable n = true) ∧
      (read? 10 (signText negative ++ t) = none → maxDigits < t.length) := by
  obtain ⟨ds, hds, rfl⟩ := exists_digits ht
  rw [read?_numeral hds (by simpa using hne), List.length_map]
  by_cases hlong : maxDigits < ds.length
  · simp [hlong]
  · simp only [if_neg hlong, reduceCtorEq, false_implies, and_true, Option.some.injEq]
    rintro n rfl
    refine isWritable_of_lt_pow (Nat.not_lt.mp hlong) ?_
    have hvalue := ofDigits_lt_pow hds
    cases negative <;> simpa using hvalue

/-! ## What is taken from a text -/

namespace Json

/-- A run of digits that is too long for a whole number. -/
def HasLongRun (t : Text) : Prop :=
  ∃ run, run <:+: t ∧ (∀ c ∈ run, c.isAsciiDigit = true) ∧ Integer.maxDigits < run.length

theorem HasLongRun.of_suffix {rest t : Text} (hlong : HasLongRun rest) (hrest : rest <:+ t) :
    HasLongRun t := by
  obtain ⟨run, hinfix, hdigits, hlength⟩ := hlong
  exact ⟨run, hinfix.trans hrest.isInfix, hdigits, hlength⟩

/-- The number of places in a text where an array or an object may begin. -/
def brackets (t : Text) : Nat :=
  t.countP fun c => c == .char '[' || c == .char '\x7b'

theorem brackets_le_of_suffix {rest t : Text} (hrest : rest <:+ t) : brackets rest ≤ brackets t :=
  hrest.sublist.countP_le

theorem skipSpace_suffix (t : Text) : skipSpace t <:+ t :=
  List.dropWhile_suffix _

theorem behind_space {c : CodePoint} {rest more : Text} (hmore : skipSpace rest = c :: more) :
    more <:+ rest ∧ more.length < rest.length := by
  have hskip := skipSpace_suffix rest
  rw [hmore] at hskip
  exact ⟨(List.suffix_cons c more).trans hskip, hskip.length_le⟩

theorem digits_suffix (t : Text) : (digits t).2 <:+ t := by
  rw [digits, List.span_eq_takeWhile_dropWhile]
  exact List.dropWhile_suffix _

theorem fractionPart_suffix (t : Text) : (fractionPart t).2 <:+ t := by
  unfold fractionPart
  split
  · rename_i rest
    split
    rename_i ds after hdigits
    split
    · exact List.suffix_refl _
    · have hafter := digits_suffix rest
      rw [hdigits] at hafter
      exact hafter.trans (List.suffix_cons _ rest)
  · exact List.suffix_refl t

theorem exponentPart_suffix (t : Text) : (exponentPart t).2 <:+ t := by
  unfold exponentPart
  split
  · rename_i mark rest
    split
    · split
      rename_i sign more hsign
      have hmore : more <:+ mark :: rest := by
        split at hsign <;> cases hsign
        · exact (List.suffix_cons _ _).trans (List.suffix_cons _ _)
        · exact (List.suffix_cons _ _).trans (List.suffix_cons _ _)
        · exact List.suffix_cons _ _
      split
      rename_i ds after hdigits
      split
      · exact List.suffix_refl _
      · have hafter := digits_suffix more
        rw [hdigits] at hafter
        exact hafter.trans hmore
    · exact List.suffix_refl _
  · exact List.suffix_refl _

/-- The whole part of a number is made of digits that stand at the start of the text. -/
theorem wholePart?_eq_some {t whole rest : Text} (hwhole : wholePart? t = some (whole, rest)) :
    t = whole ++ rest ∧ whole ≠ [] ∧ ∀ c ∈ whole, c.isAsciiDigit = true := by
  unfold wholePart? at hwhole
  split at hwhole
  · cases hwhole
    exact ⟨rfl, by decide, by decide⟩
  · split at hwhole
    rename_i ds after hdigits
    rw [digits, List.span_eq_takeWhile_dropWhile] at hdigits
    cases hdigits
    split at hwhole
    · cases hwhole
    · rename_i hne
      cases hwhole
      refine ⟨List.takeWhile_append_dropWhile.symm, by simpa using hne, ?_⟩
      exact fun c hc => List.mem_takeWhile_imp hc

theorem eq_append_of_after? {beginning t rest : Text} (hafter : after? beginning t = some rest) :
    t = beginning ++ rest := by
  induction beginning generalizing t with
  | nil => exact Option.some.inj hafter
  | cons b beginning ih =>
      cases t with
      | nil => cases hafter
      | cons c t =>
          simp only [after?] at hafter
          split at hafter
          · rename_i hc
            rw [hc, ih hafter, List.cons_append]
          · cases hafter

/-! ## Levels -/

theorem depthOfItems_le {items : List Json} {levels : Nat}
    (hitems : ∀ item ∈ items, item.depth ≤ levels) : depthOfItems items ≤ levels := by
  induction items with
  | nil => exact Nat.zero_le _
  | cons item items ih =>
      obtain ⟨hitem, hitems⟩ := List.forall_mem_cons.mp hitems
      exact Nat.max_le.mpr ⟨hitem, ih hitems⟩

theorem depthOfFields_le {fields : List (Text × Json)} {levels : Nat}
    (hvalues : ∀ field ∈ fields, field.2.depth ≤ levels) : depthOfFields fields ≤ levels := by
  induction fields with
  | nil => exact Nat.zero_le _
  | cons field fields ih =>
      obtain ⟨hvalue, hvalues⟩ := List.forall_mem_cons.mp hvalues
      exact Nat.max_le.mpr ⟨hvalue, ih hvalues⟩

/-! ## What can be read -/

/-- A text can be read as the value where some levels may be opened: whole numbers are short, and
the fields of an object have different names. -/
inductive IsReadable : (levels : Nat) → Json → Prop
  | null {levels : Nat} : IsReadable levels .null
  | bool {levels : Nat} (b : Bool) : IsReadable levels (.bool b)
  | int {levels : Nat} {n : Int} (hn : isWritable n = true) : IsReadable levels (.int n)
  | float {levels : Nat} (x : Binary64) : IsReadable levels (.float x)
  | text {levels : Nat} (t : Text) : IsReadable levels (.text t)
  | array {levels : Nat} {items : List Json} (hitems : ∀ item ∈ items, IsReadable levels item) :
      IsReadable (levels + 1) (.array items)
  | object {levels : Nat} {fields : List (Text × Json)} (hdistinct : (fields.map Prod.fst).Nodup)
      (hvalues : ∀ field ∈ fields, IsReadable levels field.2) :
      IsReadable (levels + 1) (.object fields)

namespace IsReadable

variable {levels : Nat} {j : Json}

theorem depth_le (hj : IsReadable levels j) : j.depth ≤ levels := by
  induction hj with
  | null | bool _ | int _ | float _ | text _ => exact Nat.zero_le _
  | array _ ih => exact Nat.succ_le_succ (depthOfItems_le ih)
  | object _ _ ih => exact Nat.succ_le_succ (depthOfFields_le ih)

/-- Fields that are kept one after another have different names. -/
theorem object_ofList {fields : List (Text × Json)}
    (hfields : ∀ field ∈ fields, IsReadable levels field.2) :
    IsReadable (levels + 1) (.object (Entries.ofList (· == ·) fields)) := by
  refine .object (Entries.keys_ofList fields).1 fun field hfield => ?_
  exact (Entries.forall_ofList (fun _ => True) (IsReadable levels)
    (fun field hfield => ⟨trivial, hfields field hfield⟩) field hfield).2

end IsReadable

/-! ## What reading comes to -/

/-- What reading the start of a text comes to.  If it succeeds, then something is taken from the
text; if it gives up, then the text is the reason. -/
inductive Reads {α : Type} (good : α → Prop) (deep : Prop) (t : Text) :
    Except Stop (α × Text) → Prop
  | done {a : α} {rest : Text} (hgood : good a) (hrest : rest <:+ t)
      (hlength : rest.length < t.length) : Reads good deep t (.ok (a, rest))
  | malformed (flaw : Flaw) (left : Text) : Reads good deep t (.error (.malformed flaw left))
  | longNumber (hlong : HasLongRun t) : Reads good deep t (.error .longNumber)
  | deepNesting (hdeep : deep) : Reads good deep t (.error .deepNesting)

namespace Reads

variable {α β : Type} {good : α → Prop} {next : β → Prop} {deep deeper : Prop} {t : Text}

theorem bind
    {outcome : Except Stop (α × Text)} {f : α × Text → Except Stop (β × Text)}
    (hfirst : Reads good deep t outcome) (hdeep : deep → deeper)
    (hsecond : ∀ a rest, good a → rest <:+ t → rest.length < t.length →
      Reads next deeper t (f (a, rest))) : Reads next deeper t (outcome >>= f) := by
  cases hfirst with
  | done hgood hrest hlength => exact hsecond _ _ hgood hrest hlength
  | malformed flaw left => exact .malformed flaw left
  | longNumber hlong => exact .longNumber hlong
  | deepNesting hreason => exact .deepNesting (hdeep hreason)

theorem weaken
    {outcome : Except Stop (α × Text)} (hreads : Reads good deep t outcome)
    (hdeep : deep → deeper) : Reads good deeper t outcome := by
  cases hreads with
  | done hgood hrest hlength => exact .done hgood hrest hlength
  | malformed flaw left => exact .malformed flaw left
  | longNumber hlong => exact .longNumber hlong
  | deepNesting hreason => exact .deepNesting (hdeep hreason)

/-- What is read after a part of the text is read from the text. -/
theorem of_suffix
    {rest : Text} {outcome : Except Stop (α × Text)} (hreads : Reads good deep rest outcome)
    (hrest : rest <:+ t) : Reads good deep t outcome := by
  cases hreads with
  | done hgood hmore hlength =>
      exact .done hgood (hmore.trans hrest) (Nat.lt_of_lt_of_le hlength hrest.length_le)
  | malformed flaw left => exact .malformed flaw left
  | longNumber hlong => exact .longNumber (hlong.of_suffix hrest)
  | deepNesting hdeep => exact .deepNesting hdeep

end Reads

/-! ## Texts, numbers and names -/

theorem joinUnits_reads (unit : Nat) (rest : Text) :
    (∃ points more, joinUnits unit rest = .ok (points, more) ∧ more <:+ rest) ∨
      ∃ left, joinUnits unit rest = .error (.malformed .badUnit left) := by
  unfold joinUnits
  split
  · split
    · rename_i a b c d next more
      split
      · exact .inr ⟨_, rfl⟩
      · refine .inl ?_
        split
        · exact ⟨_, _, rfl, List.suffix_append [.char '\\', .char 'u', a, b, c, d] _⟩
        · exact ⟨_, _, rfl, List.suffix_refl _⟩
    · exact .inl ⟨_, _, rfl, List.suffix_refl _⟩
  · exact .inl ⟨_, _, rfl, List.suffix_refl _⟩

theorem readText_reads (opening : Text) (fuel : Nat) (t : Text) :
    Reads (fun _ => True) False t (readText opening fuel t) := by
  induction fuel generalizing t with
  | zero => exact .malformed _ _
  | succ fuel ih =>
      -- Whatever is taken before it, the rest of the text is read with less fuel.
      have hrest : ∀ {rest : Text} (f : Text → Text), rest <:+ t →
          Reads (fun _ => True) False t
            (readText opening fuel rest >>= fun found => return (f found.1, found.2)) := by
        intro rest f hsuffix
        refine ((ih rest).of_suffix hsuffix).bind id ?_
        intro content more _ hmore hlength
        exact .done trivial hmore hlength
      unfold readText
      split
      · exact .malformed _ _
      · exact .done trivial (List.suffix_cons _ _) (by simp)
      · exact .malformed _ _
      · split
        · rename_i a b c d next more
          split
          · exact .malformed _ _
          · rename_i unit _
            rcases joinUnits_reads unit (next :: more) with
              ⟨points, left, hjoin, hleft⟩ | ⟨left, hjoin⟩
            · rw [hjoin]
              refine hrest (points ++ ·) (hleft.trans ?_)
              exact List.suffix_append [.char '\\', .char 'u', a, b, c, d] _
            · rw [hjoin]
              exact .malformed _ _
        · exact .malformed _ _
      · split
        · exact .malformed _ _
        · exact hrest _ ((List.suffix_cons _ _).trans (List.suffix_cons _ _))
      · split
        · exact .malformed _ _
        · exact hrest _ (List.suffix_cons _ _)

/-- The numbers that are read are short. -/
theorem readNumber_reads (levels : Nat) (t : Text) :
    Reads (IsReadable levels) False t (readNumber t) := by
  unfold readNumber
  split
  rename_i sign digits hsign
  obtain ⟨negative, rfl, hdigits⟩ :
      ∃ negative, sign = Integer.signText negative ∧ digits <:+ t := by
    split at hsign
    · cases hsign
      exact ⟨true, rfl, List.suffix_cons _ _⟩
    · cases hsign
      exact ⟨false, rfl, List.suffix_refl _⟩
  split
  · exact .malformed _ _
  · rename_i whole after hwhole
    obtain ⟨rfl, hne, hall⟩ := wholePart?_eq_some hwhole
    obtain ⟨hshort, hlong⟩ := Integer.read?_digits hall hne negative
    split
    rename_i fraction more hfraction
    split
    rename_i exponent rest hexponent
    have hrest : rest <:+ after := by
      have hmore := fractionPart_suffix after
      have hlast := exponentPart_suffix more
      rw [hfraction] at hmore
      rw [hexponent] at hlast
      exact hlast.trans hmore
    have hsuffix : rest <:+ t := (hrest.trans (List.suffix_append _ _)).trans hdigits
    have hlength : rest.length < t.length := by
      have hpositive := List.length_pos_iff.mpr hne
      have hle := hdigits.length_le
      have hle' := hrest.length_le
      rw [List.length_append] at hle
      omega
    split
    · split
      · rename_i n hn
        exact .done (.int (hshort n hn)) hsuffix hlength
      · rename_i hnone
        refine .longNumber ⟨whole, ?_, hall, hlong hnone⟩
        exact (List.prefix_append _ _).isInfix.trans hdigits.isInfix
    · exact .done (.float _) hsuffix hlength

theorem isReadable_names (levels : Nat) : ∀ entry ∈ names, IsReadable levels entry.2 := by
  intro entry hentry
  simp only [names, List.mem_cons, List.not_mem_nil, or_false] at hentry
  rcases hentry with rfl | rfl | rfl | rfl | rfl | rfl
  · exact .null
  · exact .bool _
  · exact .bool _
  · exact .float _
  · exact .float _
  · exact .float _

theorem readName?_reads {levels : Nat} {t : Text} {found : Json × Text}
    (hfound : readName? t = some found) : Reads (IsReadable levels) False t (.ok found) := by
  have hne : ∀ entry ∈ names, Text.ofString entry.1 ≠ [] := by decide
  obtain ⟨⟨name, value⟩, hmem, hafter⟩ := List.exists_of_findSome?_eq_some hfound
  obtain ⟨rest, hrest, rfl⟩ := Option.map_eq_some_iff.mp hafter
  have hpositive : 0 < (Text.ofString name).length := List.length_pos_iff.mpr (hne _ hmem)
  have ht := eq_append_of_after? hrest
  refine .done (isReadable_names levels _ hmem) (ht ▸ List.suffix_append _ _) ?_
  rw [ht, List.length_append]
  omega

/-! ## Values -/

/-- With so much fuel, all texts are read whose brackets are not more than the levels that may be
opened. -/
structure ReadsAll (fuel : Nat) : Prop where
  value : ∀ depth t, Reads (IsReadable depth)
    (depth < brackets t ∨ fuel < 2 * t.length + 1) t (readValue depth fuel t)
  items : ∀ depth t, Reads (fun items => ∀ item ∈ items, IsReadable depth item)
    (depth < brackets t ∨ fuel < 2 * t.length + 2) t (readItems depth fuel t)
  fields : ∀ depth t, Reads (fun fields => ∀ field ∈ fields, IsReadable depth field.2)
    (depth < brackets t ∨ fuel < 2 * t.length + 2) t (readFields depth fuel t)

theorem readsAll_zero : ReadsAll 0 where
  value depth t := by
    rw [readValue]
    exact .deepNesting (.inr (Nat.succ_pos _))
  items depth t := by
    rw [readItems]
    exact .deepNesting (.inr (Nat.succ_pos _))
  fields depth t := by
    rw [readFields]
    exact .deepNesting (.inr (Nat.succ_pos _))

/-- Behind a bracket there is one bracket less, and so there are enough levels left. -/
theorem deep_behind_bracket
    {c : CodePoint} {depth fuel : Nat} {rest left : Text}
    (hc : (c == .char '[' || c == .char '\x7b') = true) (hleft : left <:+ rest)
    (hdeep : depth < brackets left ∨ fuel < 2 * left.length + 2) :
    depth + 1 < brackets (c :: rest) ∨ fuel + 1 < 2 * (c :: rest).length + 1 := by
  have hbrackets := brackets_le_of_suffix hleft
  have hlength := hleft.length_le
  have hcount : brackets (c :: rest) = brackets rest + 1 := List.countP_cons_of_pos hc
  rw [hcount, List.length_cons]
  omega

/-- Behind other code points there are no more brackets than before. -/
theorem deep_of_suffix
    {depth fuel more less : Nat} {t rest : Text} (hrest : rest <:+ t)
    (hfuel : 2 * rest.length + more < 2 * t.length + less)
    (hdeep : depth < brackets rest ∨ fuel < 2 * rest.length + more) :
    depth < brackets t ∨ fuel + 1 < 2 * t.length + less := by
  have hbrackets := brackets_le_of_suffix hrest
  omega

namespace Reads

variable {α β : Type} {good : α → Prop} {next : β → Prop} {deep : Prop} {t rest : Text}
  {depth fuel : Nat}

/-- A sign that closes something may follow space. -/
theorem ended {a : α} {c : CodePoint} {more : Text} (hgood : good a) (hrest : rest <:+ t)
    (hlength : rest.length < t.length) (hclosed : skipSpace rest = c :: more) :
    Reads good deep t (.ok (a, more)) := by
  obtain ⟨hmore, hshorter⟩ := behind_space hclosed
  exact .done hgood (hmore.trans hrest) (hshorter.trans hlength)

theorem behind_bracket {c : CodePoint} {outcome : Except Stop (α × Text)} {f : α → β}
    (hc : (c == .char '[' || c == .char '\x7b') = true)
    (hreads : Reads good (depth < brackets (skipSpace rest) ∨
      fuel < 2 * (skipSpace rest).length + 2) (skipSpace rest) outcome)
    (hgood : ∀ a, good a → next (f a)) :
    Reads next (depth + 1 < brackets (c :: rest) ∨ fuel + 1 < 2 * (c :: rest).length + 1)
      (c :: rest) (outcome >>= fun found => return (f found.1, found.2)) := by
  have hskip := skipSpace_suffix rest
  refine (hreads.of_suffix (hskip.trans (List.suffix_cons c rest))).bind
    (deep_behind_bracket hc hskip) ?_
  intro a more ha hmore hlength
  exact .done (hgood a ha) hmore hlength

theorem behind_comma {c : CodePoint} {more : Text} {outcome : Except Stop (α × Text)} {f : α → β}
    (hrest : rest <:+ t) (hlength : rest.length < t.length) (hcomma : skipSpace rest = c :: more)
    (hreads : Reads good (depth < brackets (skipSpace more) ∨
      fuel < 2 * (skipSpace more).length + 2) (skipSpace more) outcome)
    (hgood : ∀ a, good a → next (f a)) :
    Reads next (depth < brackets t ∨ fuel + 1 < 2 * t.length + 2) t
      (outcome >>= fun found => return (f found.1, found.2)) := by
  obtain ⟨hmore, hshorter⟩ := behind_space hcomma
  have hnext := (skipSpace_suffix more).trans (hmore.trans hrest)
  have hnextlength := (skipSpace_suffix more).length_le
  refine (hreads.of_suffix hnext).bind (deep_of_suffix hnext (by omega)) ?_
  intro a left ha hleft hlength
  exact .done (hgood a ha) hleft hlength

end Reads

namespace ReadsAll

variable {fuel : Nat}

theorem value_succ (hreads : ReadsAll fuel) (depth : Nat) (t : Text) :
    Reads (IsReadable depth)
      (depth < brackets t ∨ fuel + 1 < 2 * t.length + 1) t (readValue depth (fuel + 1) t) := by
  have hcons : ∀ (c : CodePoint) (rest : Text), rest <:+ c :: rest := List.suffix_cons
  unfold readValue
  split
  · rename_i rest
    refine ((readText_reads _ _ rest).of_suffix (hcons _ _)).bind False.elim ?_
    intro content more _ hmore hlength
    exact .done (.text content) hmore hlength
  · rename_i rest
    split
    · exact .deepNesting (.inl (List.countP_pos_iff.mpr ⟨_, List.mem_cons_self, rfl⟩))
    · split
      · rename_i more hclosed
        exact .ended (.array (List.forall_mem_nil _)) (hcons _ _) (Nat.lt_succ_self _) hclosed
      · exact .behind_bracket (f := Json.array) rfl (hreads.items _ _) fun _ => .array
  · rename_i rest
    split
    · exact .deepNesting (.inl (List.countP_pos_iff.mpr ⟨_, List.mem_cons_self, rfl⟩))
    · split
      · rename_i more hclosed
        exact .ended (.object List.nodup_nil (List.forall_mem_nil _)) (hcons _ _)
          (Nat.lt_succ_self _) hclosed
      · exact .behind_bracket (f := fun fields => Json.object (Entries.ofList (· == ·) fields)) rfl
          (hreads.fields _ _) fun _ => .object_ofList
  · split
    · rename_i found hfound
      exact (readName?_reads hfound).weaken False.elim
    · exact (readNumber_reads depth t).weaken False.elim

theorem items_succ (hreads : ReadsAll fuel) (depth : Nat) (t : Text) :
    Reads (fun items => ∀ item ∈ items, IsReadable depth item)
      (depth < brackets t ∨ fuel + 1 < 2 * t.length + 2) t (readItems depth (fuel + 1) t) := by
  unfold readItems
  refine (hreads.value depth t).bind (deep_of_suffix (List.suffix_refl t) (by omega)) ?_
  intro item rest hitem hrest hlength
  dsimp only
  split
  · rename_i more hclosed
    exact .ended (List.forall_mem_singleton.mpr hitem) hrest hlength hclosed
  · rename_i more hcomma
    refine .behind_comma (f := fun items => item :: items) hrest hlength hcomma
      (hreads.items _ _) fun items hitems => ?_
    exact List.forall_mem_cons.mpr ⟨hitem, hitems⟩
  · exact .malformed _ _

theorem fields_succ (hreads : ReadsAll fuel) (depth : Nat) (t : Text) :
    Reads (fun fields => ∀ field ∈ fields, IsReadable depth field.2)
      (depth < brackets t ∨ fuel + 1 < 2 * t.length + 2) t (readFields depth (fuel + 1) t) := by
  unfold readFields
  split
  · rename_i start
    refine ((readText_reads _ _ start).of_suffix (List.suffix_cons _ _)).bind False.elim ?_
    intro name rest _ hrest hlength
    dsimp only
    split
    · rename_i colon hcolon
      have hvalue := (skipSpace_suffix colon).trans ((behind_space hcolon).1.trans hrest)
      have hvaluelength := hvalue.length_le
      refine ((hreads.value depth (skipSpace colon)).of_suffix hvalue).bind
        (deep_of_suffix hvalue (by omega)) ?_
      intro value rest hgood hrest hlength
      dsimp only
      split
      · rename_i more hclosed
        exact .ended (List.forall_mem_singleton.mpr hgood) hrest hlength hclosed
      · rename_i more hcomma
        refine .behind_comma (f := fun fields => (name, value) :: fields) hrest hlength hcomma
          (hreads.fields _ _) fun fields hfields => ?_
        exact List.forall_mem_cons.mpr ⟨hgood, hfields⟩
      · exact .malformed _ _
    · exact .malformed _ _
  · exact .malformed _ _

end ReadsAll

theorem readsAll (fuel : Nat) : ReadsAll fuel := by
  induction fuel with
  | zero => exact readsAll_zero
  | succ fuel ih => exact ⟨ih.value_succ, ih.items_succ, ih.fields_succ⟩

/-! ## Whole texts -/

/-- The whole text has fuel enough, and so nothing but its brackets is too deep. -/
theorem readValue_reads [Machine] (t : Text) :
    Reads (IsReadable Machine.valueLevels) (Machine.valueLevels < brackets t) t
      (readValue Machine.valueLevels (2 * t.length + 2) (skipSpace t)) := by
  have hskip := skipSpace_suffix t
  have hlength := hskip.length_le
  have hbrackets := brackets_le_of_suffix hskip
  have hreads :=
    ((readsAll (2 * t.length + 2)).value Machine.valueLevels (skipSpace t)).of_suffix hskip
  refine hreads.weaken ?_
  rintro (hdeep | hfuel)
  · omega
  · omega

/-- A text is read as a readable value, and a text that is given up has a run of digits that is
too long or too many brackets. -/
theorem readWhole_reads [Machine] (t : Text) :
    (∃ j, readWhole t = .ok j ∧ IsReadable Machine.valueLevels j) ∨
      (∃ flaw left, readWhole t = .error (.malformed flaw left)) ∨
      (readWhole t = .error .longNumber ∧ HasLongRun t) ∨
      (readWhole t = .error .deepNesting ∧ Machine.valueLevels < brackets t) := by
  unfold readWhole
  split
  · exact .inr (.inl ⟨_, _, rfl⟩)
  · have hreads := readValue_reads t
    revert hreads
    generalize readValue Machine.valueLevels (2 * List.length t + 2) (skipSpace t) = outcome
    rintro (⟨hgood, -, -⟩ | ⟨flaw, left⟩ | ⟨hlong⟩ | ⟨hdeep⟩)
    · rename_i j rest
      simp only [bind, Except.bind]
      split
      · exact .inl ⟨j, rfl, hgood⟩
      · exact .inr (.inl ⟨_, _, rfl⟩)
    · exact .inr (.inl ⟨flaw, left, rfl⟩)
    · exact .inr (.inr (.inl ⟨rfl, hlong⟩))
    · exact .inr (.inr (.inr ⟨rfl, hdeep⟩))

theorem isReadable_of_read [Machine] {t : Text} {j : Json} (hread : Json.read t = .ok j) :
    IsReadable Machine.valueLevels j := by
  unfold Json.read at hread
  rcases readWhole_reads t with
    ⟨value, hvalue, hreadable⟩ | ⟨flaw, left, hwhole⟩ | ⟨hwhole, -⟩ | ⟨hwhole, -⟩
  · rw [hvalue] at hread
    cases hread
    exact hreadable
  · rw [hwhole] at hread
    cases hread
  · rw [hwhole] at hread
    cases hread
  · rw [hwhole] at hread
    cases hread

end Json
end ActorManifest
