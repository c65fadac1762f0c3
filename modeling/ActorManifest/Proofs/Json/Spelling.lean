import ActorManifest.Proofs.Entries
import ActorManifest.Proofs.Json.Escape
import ActorManifest.Proofs.Json.Number
import Mathlib.Tactic.IntervalCases

/-!
# Spellings of values

A value has many spellings, which differ in the blanks between its parts.  A spelling opens no
more levels than it may and has no whole numbers with too many digits.  Halves of a pair that
stand side by side spell a character, and a field that is named twice is spelled by what follows
its last name.  Whatever spells a value is read as that value.  Hence no text spells two values.
-/

namespace ActorManifest
namespace Json

open Text

/-! ## Blanks -/

/-- A text that may stand between the parts of a value. -/
def IsBlank (t : Text) : Prop :=
  ∀ c ∈ t, isSpace c = true

theorem isBlank_nil : IsBlank [] :=
  List.forall_mem_nil _

theorem isBlank_newLine (indent : Nat) : IsBlank (newLine indent) := by
  intro c hc
  rcases List.mem_cons.mp hc with rfl | hc
  · rfl
  · obtain rfl := List.eq_of_mem_replicate hc
    rfl

theorem skipSpace_append {blank : Text} (hblank : IsBlank blank) (rest : Text) :
    skipSpace (blank ++ rest) = skipSpace rest :=
  List.dropWhile_append_of_pos hblank

theorem skipSpace_cons {c : CodePoint} (hc : isSpace c = false) (rest : Text) :
    skipSpace (c :: rest) = c :: rest :=
  List.dropWhile_cons_of_neg (by simp [hc])

/-! ## Spellings -/

mutual

/-- A text spells a value within a number of levels. -/
inductive Spells : Nat → Json → Text → Prop
  | null {depth : Nat} : Spells depth .null "null"
  | bool {depth : Nat} (b : Bool) : Spells depth (.bool b) (if b then "true" else "false")
  | int {depth : Nat} {n : Int} (hn : isWritable n = true) : Spells depth (.int n) (ofInt n)
  | float {depth : Nat} (x : Binary64) : Spells depth (.float x.reread) (floatLiteral x)
  | text {depth : Nat} (t : Text) : Spells depth (.text (joined t)) (textLiteral t)
  | emptyArray {depth : Nat} : Spells (depth + 1) (.array []) "[]"
  | array {depth : Nat} {items : List Json} {blank s : Text}
      (hblank : IsBlank blank) (hitems : SpellsItems depth items s) :
      Spells (depth + 1) (.array items) (.char '[' :: (blank ++ s))
  | emptyObject {depth : Nat} : Spells (depth + 1) (.object []) "\x7b\x7d"
  | object {depth : Nat} {fields : List (Text × Json)} {blank s : Text}
      (hblank : IsBlank blank) (hfields : SpellsFields depth fields s) :
      Spells (depth + 1) (.object (Entries.ofList (· == ·) fields))
        (.char '\x7b' :: (blank ++ s))

/-- A text spells the items of an array up to the bracket that closes it. -/
inductive SpellsItems : Nat → List Json → Text → Prop
  | last {depth : Nat} {item : Json} {t blank : Text}
      (hitem : Spells depth item t) (hblank : IsBlank blank) :
      SpellsItems depth [item] (t ++ (blank ++ [.char ']']))
  | cons {depth : Nat} {item : Json} {items : List Json} {t before after s : Text}
      (hitem : Spells depth item t) (hbefore : IsBlank before) (hafter : IsBlank after)
      (hitems : SpellsItems depth items s) :
      SpellsItems depth (item :: items) (t ++ (before ++ .char ',' :: (after ++ s)))

/-- A text spells the fields of an object up to the brace that closes it. -/
inductive SpellsFields : Nat → List (Text × Json) → Text → Prop
  | last {depth : Nat} {name : Text} {value : Json} {t blank between : Text}
      (hbetween : IsBlank between) (hvalue : Spells depth value t) (hblank : IsBlank blank) :
      SpellsFields depth [(joined name, value)]
        (textLiteral name ++ .char ':' :: (between ++ (t ++ (blank ++ [.char '\x7d']))))
  | cons {depth : Nat} {name : Text} {value : Json} {fields : List (Text × Json)}
      {t between before after s : Text}
      (hbetween : IsBlank between) (hvalue : Spells depth value t) (hbefore : IsBlank before)
      (hafter : IsBlank after) (hfields : SpellsFields depth fields s) :
      SpellsFields depth ((joined name, value) :: fields)
        (textLiteral name ++
          .char ':' :: (between ++ (t ++ (before ++ .char ',' :: (after ++ s)))))

end

/-! ## First characters -/

/-- The text begins with a digit, or with a sign and a digit. -/
def BeginsNumeral (t : Text) : Prop :=
  ∃ negative d more, d < 10 ∧ t = Integer.signText negative ++ digit d :: more

theorem IsWhole.beginsNumeral
    {whole : Text} (hwhole : IsWhole whole) (negative : Bool) (rest : Text) :
    BeginsNumeral (Integer.signText negative ++ (whole ++ rest)) := by
  obtain ⟨c, more, rfl, hc⟩ := hwhole.exists_cons
  obtain ⟨d, hd, rfl⟩ := exists_digit_of_isAsciiDigit hc
  exact ⟨negative, d, _, hd, rfl⟩

theorem beginsNumeral_ofInt (n : Int) (rest : Text) : BeginsNumeral (ofInt n ++ rest) := by
  obtain ⟨negative, whole, hparts, hwhole⟩ := exists_parts_of_ofInt n
  rw [hparts, List.append_assoc]
  exact hwhole.beginsNumeral negative rest

theorem beginsNumeral_text (negative : Bool) (mantissa : Nat) (exponent : Int) (rest : Text) :
    BeginsNumeral (Binary64.text (.finite negative mantissa exponent) ++ rest) := by
  obtain ⟨whole, fraction, mark, htext, hwhole, -⟩ :=
    Binary64.exists_parts_of_text negative mantissa exponent
  rw [htext, List.append_assoc, List.append_assoc]
  exact hwhole.beginsNumeral negative _

theorem textLiteral_append (t rest : Text) :
    textLiteral t ++ rest = .char '"' :: (t.flatMap escaped ++ .char '"' :: rest) := by
  rw [textLiteral_eq, List.cons_append, List.append_assoc]
  rfl

/-- Whether what lies inside an array or an object may begin with a code point: neither a blank,
nor what closes either, nor a byte order mark. -/
def beginsPart (c : CodePoint) : Bool :=
  !isSpace c && c != .char ']' && c != .char '\x7d' && c != .char '\uFEFF'

theorem BeginsNumeral.exists_cons {t : Text} (ht : BeginsNumeral t) :
    ∃ c rest, t = c :: rest ∧ beginsPart c = true := by
  have hdigit : ∀ d < 10, beginsPart (digit d) = true := by
    decide
  obtain ⟨negative, d, more, hd, rfl⟩ := ht
  cases negative with
  | true => exact ⟨_, _, rfl, rfl⟩
  | false => exact ⟨_, _, rfl, hdigit d hd⟩

theorem Spells.exists_cons {depth : Nat} {j : Json} {t : Text} (hspells : Spells depth j t) :
    ∃ c rest, t = c :: rest ∧ beginsPart c = true := by
  cases hspells with
  | null => exact ⟨_, _, rfl, by decide⟩
  | bool b => cases b <;> exact ⟨_, _, rfl, by decide⟩
  | @int _ n hn =>
      have hbegins := beginsNumeral_ofInt n []
      rw [List.append_nil] at hbegins
      exact hbegins.exists_cons
  | float x =>
      cases x with
      | nan => exact ⟨_, _, rfl, by decide⟩
      | infinite negative => cases negative <;> exact ⟨_, _, rfl, by decide⟩
      | finite negative mantissa exponent =>
          have hbegins := beginsNumeral_text negative mantissa exponent []
          rw [List.append_nil] at hbegins
          exact hbegins.exists_cons
  | text t => exact ⟨_, _, textLiteral_eq _, by decide⟩
  | emptyArray | emptyObject | array | object => exact ⟨_, _, rfl, by decide⟩

theorem SpellsItems.exists_cons
    {depth : Nat} {items : List Json} {s : Text} (hspells : SpellsItems depth items s) :
    ∃ c rest, s = c :: rest ∧ beginsPart c = true := by
  cases hspells with
  | last hitem _ | cons hitem _ _ _ =>
      obtain ⟨c, rest, rfl, hbegins⟩ := hitem.exists_cons
      exact ⟨c, _, rfl, hbegins⟩

theorem SpellsFields.exists_cons
    {depth : Nat} {fields : List (Text × Json)} {s : Text}
    (hspells : SpellsFields depth fields s) : ∃ c rest, s = c :: rest ∧ beginsPart c = true := by
  cases hspells with
  | last _ _ _ | cons _ _ _ _ _ => exact ⟨_, _, textLiteral_append _ _, by decide⟩

/-- The blanks before a part are skipped, and nothing of the part. -/
theorem skipSpace_before
    {blank t : Text} (hblank : IsBlank blank)
    (ht : ∃ c rest, t = c :: rest ∧ beginsPart c = true) (rest : Text) :
    skipSpace (blank ++ (t ++ rest)) = t ++ rest := by
  obtain ⟨c, more, rfl, hbegins⟩ := ht
  simp only [beginsPart, Bool.and_eq_true, Bool.not_eq_true'] at hbegins
  rw [skipSpace_append hblank, List.cons_append, skipSpace_cons hbegins.1.1.1]

/-! ## Reading values that hold no others -/

section Scalars

variable (depth fuel : Nat) (rest : Text)

theorem readValue_null :
    readValue depth (fuel + 1) (("null" : Text) ++ rest) = .ok (.null, rest) := rfl

theorem readValue_bool (b : Bool) :
    readValue depth (fuel + 1) ((if b then ("true" : Text) else "false") ++ rest) =
      .ok (.bool b, rest) := by
  cases b <;> rfl

theorem readValue_textLiteral (t : Text) :
    readValue depth (fuel + 1) (textLiteral t ++ rest) = .ok (.text (joined t), rest) := by
  rw [textLiteral_append, readValue, readText_textLiteral]
  rfl

/-- What begins a numeral opens neither a text nor an array nor an object, and it is no name. -/
theorem BeginsNumeral.readValue_eq {t : Text} (ht : BeginsNumeral t) :
    readValue depth (fuel + 1) t = readNumber t := by
  obtain ⟨negative, d, more, hd, rfl⟩ := ht
  cases negative with
  | true => interval_cases d <;> rfl
  | false => interval_cases d <;> rfl

variable {rest} in
theorem readValue_ofInt {n : Int} (hn : isWritable n = true) (hrest : EndsNumeral rest) :
    readValue depth (fuel + 1) (ofInt n ++ rest) = .ok (.int n, rest) := by
  rw [(beginsNumeral_ofInt n rest).readValue_eq]
  exact readNumber_ofInt hn hrest

variable {rest} in
theorem readValue_floatLiteral (x : Binary64) (hrest : EndsNumeral rest) :
    readValue depth (fuel + 1) (floatLiteral x ++ rest) = .ok (.float x.reread, rest) := by
  cases x with
  | nan => rfl
  | infinite negative => cases negative <;> rfl
  | finite negative mantissa exponent =>
      rw [floatLiteral]
      · rw [(beginsNumeral_text negative mantissa exponent rest).readValue_eq]
        exact readNumber_text negative mantissa exponent hrest
      · exact nofun
      · exact nofun
      · exact nofun

end Scalars

/-! ## Reading arrays and objects -/

section Steps

variable {depth fuel : Nat} {rest : Text}

theorem readValue_array
    {items : List Json} {blank s : Text} (hblank : IsBlank blank)
    (hspells : SpellsItems depth items s)
    (hitems : readItems depth fuel (s ++ rest) = .ok (items, rest)) :
    readValue (depth + 1) (fuel + 1) (.char '[' :: (blank ++ s) ++ rest) =
      .ok (.array items, rest) := by
  rw [List.cons_append, List.append_assoc, readValue, skipSpace_before hblank hspells.exists_cons]
  obtain ⟨c, more, rfl, hbegins⟩ := hspells.exists_cons
  split
  · obtain rfl := (List.cons.inj ‹_›).1
    cases hbegins
  · rw [hitems]
    rfl

theorem readValue_object
    {fields : List (Text × Json)} {blank s : Text} (hblank : IsBlank blank)
    (hspells : SpellsFields depth fields s)
    (hfields : readFields depth fuel (s ++ rest) = .ok (fields, rest)) :
    readValue (depth + 1) (fuel + 1) (.char '\x7b' :: (blank ++ s) ++ rest) =
      .ok (.object (Entries.ofList (· == ·) fields), rest) := by
  rw [List.cons_append, List.append_assoc, readValue, skipSpace_before hblank hspells.exists_cons]
  obtain ⟨c, more, rfl, hbegins⟩ := hspells.exists_cons
  split
  · obtain rfl := (List.cons.inj ‹_›).1
    cases hbegins
  · rw [hfields]
    rfl

theorem endsNumeral_cons
    {c : CodePoint} (hc : c.isAsciiDigit = false ∧ c ≠ .char '.' ∧ c ≠ .char 'e' ∧ c ≠ .char 'E')
    (rest : Text) : EndsNumeral (c :: rest) := by
  intro b hb
  obtain rfl := Option.mem_some.mp hb
  exact hc

theorem endsNumeral_of_isSpace {c : CodePoint} (hc : isSpace c = true) (rest : Text) :
    EndsNumeral (c :: rest) := by
  simp only [isSpace, Bool.or_eq_true, beq_iff_eq, or_assoc] at hc
  rcases hc with rfl | rfl | rfl | rfl <;> exact endsNumeral_cons (by decide) rest

/-- A numeral ends where blanks and what closes or parts the values follow. -/
theorem endsNumeral_append
    {blank : Text} (hblank : IsBlank blank) {c : Char} (hc : c ∈ [',', ']', '\x7d'])
    (rest : Text) : EndsNumeral (blank ++ .char c :: rest) := by
  cases blank with
  | nil =>
      simp only [List.mem_cons, List.not_mem_nil, or_false] at hc
      rcases hc with rfl | rfl | rfl <;> exact endsNumeral_cons (by decide) rest
  | cons b _ => exact endsNumeral_of_isSpace (hblank b List.mem_cons_self) _

theorem readItems_last
    {item : Json} {t blank : Text} (hblank : IsBlank blank)
    (hitem : readValue depth fuel (t ++ (blank ++ .char ']' :: rest)) =
      .ok (item, blank ++ .char ']' :: rest)) :
    readItems depth (fuel + 1) (t ++ (blank ++ [.char ']']) ++ rest) = .ok ([item], rest) := by
  have hclose : skipSpace (.char ']' :: rest) = .char ']' :: rest := rfl
  simp only [List.append_assoc, List.cons_append, List.nil_append, readItems, hitem, bind,
    Except.bind, pure, Except.pure, skipSpace_append hblank, hclose]

theorem readItems_cons
    {item : Json} {items : List Json} {t before after s : Text}
    (hbefore : IsBlank before) (hafter : IsBlank after) (hspells : SpellsItems depth items s)
    (hitem : readValue depth fuel (t ++ (before ++ .char ',' :: (after ++ (s ++ rest)))) =
      .ok (item, before ++ .char ',' :: (after ++ (s ++ rest))))
    (hitems : readItems depth fuel (s ++ rest) = .ok (items, rest)) :
    readItems depth (fuel + 1) (t ++ (before ++ .char ',' :: (after ++ s)) ++ rest) =
      .ok (item :: items, rest) := by
  have hcomma : ∀ left, skipSpace (.char ',' :: left) = .char ',' :: left := fun _ => rfl
  simp only [List.append_assoc, List.cons_append, readItems, hitem, bind, Except.bind, pure,
    Except.pure, skipSpace_append hbefore, hcomma, skipSpace_before hafter hspells.exists_cons,
    hitems]

theorem readFields_last
    {name : Text} {value : Json} {t between blank : Text} (hbetween : IsBlank between)
    (hspells : Spells depth value t) (hblank : IsBlank blank)
    (hvalue : readValue depth fuel (t ++ (blank ++ .char '\x7d' :: rest)) =
      .ok (value, blank ++ .char '\x7d' :: rest)) :
    readFields depth (fuel + 1)
        (textLiteral name ++
          .char ':' :: (between ++ (t ++ (blank ++ [.char '\x7d']))) ++ rest) =
      .ok ([(joined name, value)], rest) := by
  have hcolon : ∀ left, skipSpace (.char ':' :: left) = .char ':' :: left := fun _ => rfl
  have hclose : skipSpace (.char '\x7d' :: rest) = .char '\x7d' :: rest := rfl
  rw [List.append_assoc, textLiteral_append, readFields, readText_textLiteral]
  simp only [List.append_assoc, List.cons_append, List.nil_append, bind, Except.bind, pure,
    Except.pure, hcolon, skipSpace_before hbetween hspells.exists_cons, hvalue,
    skipSpace_append hblank, hclose]

theorem readFields_cons
    {name : Text} {value : Json} {fields : List (Text × Json)} {t between before after s : Text}
    (hbetween : IsBlank between) (hspells : Spells depth value t) (hbefore : IsBlank before)
    (hafter : IsBlank after) (hspells' : SpellsFields depth fields s)
    (hvalue : readValue depth fuel (t ++ (before ++ .char ',' :: (after ++ (s ++ rest)))) =
      .ok (value, before ++ .char ',' :: (after ++ (s ++ rest))))
    (hfields : readFields depth fuel (s ++ rest) = .ok (fields, rest)) :
    readFields depth (fuel + 1)
        (textLiteral name ++
          .char ':' :: (between ++ (t ++ (before ++ .char ',' :: (after ++ s)))) ++ rest) =
      .ok ((joined name, value) :: fields, rest) := by
  have hcolon : ∀ left, skipSpace (.char ':' :: left) = .char ':' :: left := fun _ => rfl
  have hcomma : ∀ left, skipSpace (.char ',' :: left) = .char ',' :: left := fun _ => rfl
  rw [List.append_assoc, textLiteral_append, readFields, readText_textLiteral]
  simp only [List.append_assoc, List.cons_append, bind, Except.bind, pure, Except.pure, hcolon,
    skipSpace_before hbetween hspells.exists_cons, hvalue, skipSpace_append hbefore, hcomma,
    skipSpace_before hafter hspells'.exists_cons, hfields]

end Steps

/-! ## Reading whatever spells a value -/

/-- With so much fuel, all spellings that are not longer are read. -/
structure ReadsSpellings (fuel : Nat) : Prop where
  value : ∀ {depth : Nat} {j : Json} {t : Text}, Spells depth j t → t.length ≤ fuel →
    ∀ {rest : Text}, EndsNumeral rest → readValue depth fuel (t ++ rest) = .ok (j, rest)
  items : ∀ {depth : Nat} {items : List Json} {s : Text}, SpellsItems depth items s →
    s.length ≤ fuel → ∀ rest, readItems depth fuel (s ++ rest) = .ok (items, rest)
  fields : ∀ {depth : Nat} {fields : List (Text × Json)} {s : Text},
    SpellsFields depth fields s → s.length ≤ fuel →
      ∀ rest, readFields depth fuel (s ++ rest) = .ok (fields, rest)

theorem readsSpellings_zero : ReadsSpellings 0 where
  value := by
    intro depth j t hspells hlength
    obtain ⟨c, rest, rfl, -⟩ := hspells.exists_cons
    cases hlength
  items := by
    intro depth items s hspells hlength
    obtain ⟨c, rest, rfl, -⟩ := hspells.exists_cons
    cases hlength
  fields := by
    intro depth fields s hspells hlength
    obtain ⟨c, rest, rfl, -⟩ := hspells.exists_cons
    cases hlength

namespace ReadsSpellings

variable {fuel depth : Nat} {rest : Text}

theorem value_succ
    (hreads : ReadsSpellings fuel) {j : Json} {t : Text} (hspells : Spells depth j t)
    (hlength : t.length ≤ fuel + 1) (hrest : EndsNumeral rest) :
    readValue depth (fuel + 1) (t ++ rest) = .ok (j, rest) := by
  cases hspells with
  | null => exact readValue_null depth fuel rest
  | bool b => exact readValue_bool depth fuel rest b
  | int hn => exact readValue_ofInt depth fuel hn hrest
  | float x => exact readValue_floatLiteral depth fuel x hrest
  | text t => exact readValue_textLiteral depth fuel rest t
  | emptyArray | emptyObject => rfl
  | array hblank hitems =>
      refine readValue_array hblank hitems (hreads.items hitems ?_ rest)
      simp only [List.length_cons, List.length_append] at hlength
      omega
  | object hblank hfields =>
      refine readValue_object hblank hfields (hreads.fields hfields ?_ rest)
      simp only [List.length_cons, List.length_append] at hlength
      omega

theorem items_succ
    (hreads : ReadsSpellings fuel) {items : List Json} {s : Text}
    (hspells : SpellsItems depth items s) (hlength : s.length ≤ fuel + 1) :
    readItems depth (fuel + 1) (s ++ rest) = .ok (items, rest) := by
  cases hspells with
  | last hitem hblank =>
      simp only [List.length_cons, List.length_append] at hlength
      exact readItems_last hblank
        (hreads.value hitem (by omega) (endsNumeral_append hblank (by decide) _))
  | cons hitem hbefore hafter hitems =>
      simp only [List.length_cons, List.length_append] at hlength
      exact readItems_cons hbefore hafter hitems
        (hreads.value hitem (by omega) (endsNumeral_append hbefore (by decide) _))
        (hreads.items hitems (by omega) rest)

theorem fields_succ
    (hreads : ReadsSpellings fuel) {fields : List (Text × Json)} {s : Text}
    (hspells : SpellsFields depth fields s) (hlength : s.length ≤ fuel + 1) :
    readFields depth (fuel + 1) (s ++ rest) = .ok (fields, rest) := by
  cases hspells with
  | last hbetween hvalue hblank =>
      simp only [List.length_cons, List.length_append] at hlength
      exact readFields_last hbetween hvalue hblank
        (hreads.value hvalue (by omega) (endsNumeral_append hblank (by decide) _))
  | cons hbetween hvalue hbefore hafter hfields =>
      simp only [List.length_cons, List.length_append] at hlength
      exact readFields_cons hbetween hvalue hbefore hafter hfields
        (hreads.value hvalue (by omega) (endsNumeral_append hbefore (by decide) _))
        (hreads.fields hfields (by omega) rest)

end ReadsSpellings

theorem readsSpellings (fuel : Nat) : ReadsSpellings fuel := by
  -- The readers call one another with less fuel, on parts that are shorter by what was read.
  induction fuel with
  | zero => exact readsSpellings_zero
  | succ fuel ih =>
      constructor
      · exact fun hspells hlength _ hrest => ih.value_succ hspells hlength hrest
      · exact fun hspells hlength _ => ih.items_succ hspells hlength
      · exact fun hspells hlength _ => ih.fields_succ hspells hlength

/-- A spelling is read as the value that it spells, whatever blanks follow it. -/
theorem read_of_spells [Machine]
    {j : Json} {t blank : Text} (hspells : Spells Machine.valueLevels j t) (hblank : IsBlank blank) :
    Json.read (t ++ blank) = .ok j := by
  have hend : EndsNumeral blank := by
    cases blank with
    | nil => exact nofun
    | cons c blank => exact endsNumeral_of_isSpace (hblank c List.mem_cons_self) blank
  have hskip : skipSpace (t ++ blank) = t ++ blank :=
    skipSpace_before isBlank_nil hspells.exists_cons blank
  have hvalue : readValue Machine.valueLevels (2 * (t ++ blank).length + 2) (t ++ blank) =
      .ok (j, blank) := by
    refine (readsSpellings _).value hspells ?_ hend
    rw [List.length_append]
    omega
  have hrest : skipSpace blank = [] := by
    simpa [skipSpace] using skipSpace_append hblank []
  have hwhole : readWhole (t ++ blank) = .ok j := by
    obtain ⟨c, more, rfl, hbegins⟩ := hspells.exists_cons
    unfold readWhole
    split
    · obtain rfl := (List.cons.inj ‹_›).1
      cases hbegins
    · simp only [hskip, hvalue, bind, Except.bind, pure, Except.pure, hrest]
  rw [Json.read, hwhole]

/-- No text spells two values. -/
theorem Spells.unique
    {depth : Nat} {j k : Json} {t : Text} (hj : Spells depth j t) (hk : Spells depth k t) :
    j = k := by
  have hend : EndsNumeral [] := nofun
  have hread := (readsSpellings t.length).value hj (Nat.le_refl _) hend
  rw [(readsSpellings t.length).value hk (Nat.le_refl _) hend] at hread
  cases hread
  rfl

end Json
end ActorManifest
