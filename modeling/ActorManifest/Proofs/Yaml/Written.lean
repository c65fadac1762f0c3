import ActorManifest.Proofs.Yaml.Quoted

/-!
# The signs of written texts

All that is written of a text is printable ASCII, besides the line breaks.  If no line is broken,
a text without line feeds is written on one line, in a form that depends on no column.
-/

namespace ActorManifest
namespace Yaml
namespace Writer

variable {split first afterSpace afterFeed afterEscape : Bool} {indent column n : Nat}
  {p : CodePoint} {t e : Text}

/-- The code point is printable ASCII. -/
def IsVisible (p : CodePoint) : Prop :=
  isSimple p = true ∧ isFeed p = false

instance (p : CodePoint) : Decidable (IsVisible p) :=
  inferInstanceAs (Decidable (isSimple p = true ∧ isFeed p = false))

theorem isVisible_of_range (hp : 0x20 ≤ p.toNat ∧ p.toNat ≤ 0x7E) : IsVisible p := by
  constructor
  · simp [isSimple, hp.1, hp.2]
  · refine beq_eq_false_iff_ne.mpr ?_
    rintro rfl
    exact absurd hp.1 (by decide)

theorem isSimple_newLine (n : Nat) : ∀ p ∈ newLine n, isSimple p = true := by
  refine List.forall_mem_cons.mpr ⟨rfl, fun p hp => ?_⟩
  rw [List.eq_of_mem_replicate hp]
  rfl

/-! ## Escapes -/

theorem isVisible_hexDigits {count m : Nat} (hm : m < 16 ^ (count + 1)) :
    ∀ q ∈ hexDigits (count + 1) m, IsVisible q := by
  have hdigit : ∀ d < 16, IsVisible (capitalDigit d) := by decide
  induction count generalizing m with
  | zero =>
      have hm : m < 16 := hm
      rw [hexDigits, Text.ofNatHex_one hm]
      exact List.forall_mem_singleton.mpr (hdigit m hm)
  | succ count ih =>
      have hfits : m / 16 < 16 ^ (count + 1) := by
        rw [Nat.pow_succ] at hm
        omega
      rw [hexDigits, Text.ofNatHex_succ (Nat.succ_pos count), List.map_append]
      refine List.forall_mem_append.mpr ⟨ih hfits, ?_⟩
      exact List.forall_mem_singleton.mpr (hdigit _ (Nat.mod_lt m (by decide)))

theorem isVisible_signEscape? {sign : Char} (hsign : signEscape? p = some sign) :
    IsVisible (.char sign) := by
  unfold signEscape? at hsign
  split at hsign
  case h_16 => cases hsign
  all_goals
    cases hsign
    decide

/-- An escape is printable and at most ten signs long. -/
theorem isVisible_escape (he : escape? p = some e) :
    (∀ q ∈ e, IsVisible q) ∧ e.length ≤ 10 := by
  rcases escape_cases he with ⟨sign, hsign, rfl⟩ | ⟨letter, count, hletter, hp, rfl⟩
  · refine ⟨?_, by simp⟩
    exact List.forall_mem_cons.mpr
      ⟨by decide, List.forall_mem_singleton.mpr (isVisible_signEscape? hsign)⟩
  · obtain ⟨-, hlength, -⟩ := exists_values_of_hexDigits hp
    have hletter' : IsVisible (.char letter) := by
      cases hletter <;> decide
    refine ⟨List.forall_mem_cons.mpr ⟨by decide,
      List.forall_mem_cons.mpr ⟨hletter', isVisible_hexDigits hp⟩⟩, ?_⟩
    rw [List.length_cons, List.length_cons, hlength]
    cases hletter <;> decide

theorem isVisible_of_escape?_eq_none (hescape : escape? p = none) : IsVisible p := by
  unfold escape? at hescape
  dsimp only at hescape
  split at hescape
  · cases hescape
  · split at hescape
    · rename_i hp
      exact isVisible_of_range hp
    · repeat' split at hescape
      all_goals cases hescape

/-! ## Simple signs -/

theorem isSimple_plainFrom (ht : ∀ p ∈ t, isSimple p = true) :
    ∀ p ∈ plainFrom split indent column afterSpace t, isSimple p = true := by
  induction t generalizing column afterSpace with
  | nil => exact List.forall_mem_nil _
  | cons c t ih =>
      obtain ⟨hc, ht⟩ := List.forall_mem_cons.mp ht
      rw [plainFrom]
      split
      · split
        · exact List.forall_mem_append.mpr ⟨isSimple_newLine indent, ih ht⟩
        · exact List.forall_mem_cons.mpr ⟨hc, ih ht⟩
      · exact List.forall_mem_cons.mpr ⟨hc, ih ht⟩

theorem isSimple_singleFrom (ht : ∀ p ∈ t, isSimple p = true) :
    ∀ p ∈ singleFrom split indent column first afterSpace afterFeed t, isSimple p = true := by
  induction t generalizing column first afterSpace afterFeed with
  | nil => exact List.forall_mem_nil _
  | cons c t ih =>
      obtain ⟨hc, ht⟩ := List.forall_mem_cons.mp ht
      have hspaces := (List.forall_mem_cons.mp (isSimple_newLine indent)).2
      rw [singleFrom]
      split
      · refine List.forall_mem_append.mpr ⟨List.forall_mem_append.mpr ⟨?_, ?_⟩, ih ht⟩
        · split <;> simp [hc]
        · split
          · exact List.forall_mem_nil _
          · exact hspaces
      · split
        · split
          · exact List.forall_mem_append.mpr ⟨isSimple_newLine indent, ih ht⟩
          · exact List.forall_mem_cons.mpr ⟨hc, ih ht⟩
        · split
          · exact List.forall_mem_cons.mpr ⟨hc, List.forall_mem_cons.mpr ⟨hc, ih ht⟩⟩
          · exact List.forall_mem_cons.mpr ⟨hc, ih ht⟩

theorem isSimple_brokenLine (next : Option CodePoint) :
    ∀ p ∈ (brokenLine indent next).1, isSimple p = true := by
  have hline : ∀ p ∈ CodePoint.char '\\' :: newLine indent, isSimple p = true :=
    List.forall_mem_cons.mpr ⟨rfl, isSimple_newLine indent⟩
  unfold brokenLine
  dsimp only
  split
  · exact List.forall_mem_append.mpr ⟨hline, List.forall_mem_singleton.mpr rfl⟩
  · exact hline

theorem isSimple_doubleFrom :
    ∀ p ∈ doubleFrom split indent column first afterEscape t, isSimple p = true := by
  induction t generalizing column first afterEscape with
  | nil => exact List.forall_mem_nil _
  | cons c t ih =>
      rw [doubleFrom]
      dsimp only
      split
      · rename_i e he
        have hescape : ∀ q ∈ e, isSimple q = true := fun q hq => ((isVisible_escape he).1 q hq).1
        split
        · exact List.forall_mem_append.mpr
            ⟨List.forall_mem_append.mpr ⟨hescape, isSimple_brokenLine _⟩, ih⟩
        · exact List.forall_mem_append.mpr ⟨hescape, ih⟩
      · rename_i hescape
        have hc := (isVisible_of_escape?_eq_none hescape).1
        split
        · exact List.forall_mem_append.mpr
            ⟨isSimple_brokenLine _, List.forall_mem_cons.mpr ⟨hc, ih⟩⟩
        · exact List.forall_mem_cons.mpr ⟨hc, ih⟩

/-! ## Texts -/

/-- A text is written plain, or between quotes of one kind or the other. -/
theorem textFrom_cases (split : Bool) (indent column : Nat) (t : Text) :
    (allowsPlain t = true ∧ textFrom split indent column t =
        plainFrom split indent column false t) ∨
      (allowsPlain t = false ∧ allowsSingle t = true ∧ textFrom split indent column t =
        quote false ::
          (singleFrom split indent (column + 1) true false false t ++ [quote false])) ∨
      (allowsPlain t = false ∧ textFrom split indent column t =
        quote true :: (doubleFrom split indent (column + 1) true false t ++ [quote true])) := by
  unfold textFrom styleOf
  cases hplain : allowsPlain t with
  | true => exact .inl ⟨rfl, rfl⟩
  | false =>
      cases hsingle : allowsSingle t with
      | true => exact .inr (.inl ⟨rfl, rfl, rfl⟩)
      | false => exact .inr (.inr ⟨rfl, rfl⟩)

theorem isSimple_of_allowsPlain (ht : allowsPlain t = true) :
    ∀ p ∈ t, isSimple p = true ∧ isFeed p = false := by
  simp only [allowsPlain, Bool.and_eq_true] at ht
  intro p hp
  simpa using List.all_eq_true.mp ht.1.1.1.1.2 p hp

theorem isSimple_of_allowsSingle (ht : allowsSingle t = true) : ∀ p ∈ t, isSimple p = true := by
  simp only [allowsSingle, Bool.and_eq_true] at ht
  exact List.all_eq_true.mp ht.1.1

theorem isSimple_textFrom (split : Bool) (indent column : Nat) (t : Text) :
    ∀ p ∈ textFrom split indent column t, isSimple p = true := by
  have hquoted : ∀ double (w : Text), (∀ p ∈ w, isSimple p = true) →
      ∀ p ∈ quote double :: (w ++ [quote double]), isSimple p = true := by
    intro double w hw
    have hquote : isSimple (quote double) = true := by
      cases double <;> rfl
    exact List.forall_mem_cons.mpr
      ⟨hquote, List.forall_mem_append.mpr ⟨hw, List.forall_mem_singleton.mpr hquote⟩⟩
  rcases textFrom_cases split indent column t with
    ⟨hplain, hform⟩ | ⟨-, hsingle, hform⟩ | ⟨-, hform⟩
  · rw [hform]
    exact isSimple_plainFrom fun p hp => (isSimple_of_allowsPlain hplain p hp).1
  · rw [hform]
    exact hquoted _ _ (isSimple_singleFrom (isSimple_of_allowsSingle hsingle))
  · rw [hform]
    exact hquoted _ _ isSimple_doubleFrom

/-! ## Keys -/

/-- A code point between single quotes. -/
def singleSigns (p : CodePoint) : Text :=
  if p = .char '\x27' then [p, p] else [p]

/-- A code point between double quotes. -/
def doubleSigns (p : CodePoint) : Text :=
  (escape? p).getD [p]

/-- A text as it is written before a colon on the same line. -/
def keyText (t : Text) : Text :=
  textFrom false 0 0 t

theorem singleFrom_eq_flatMap (ht : ∀ p ∈ t, isFeed p = false) :
    singleFrom false indent column first afterSpace afterFeed t = t.flatMap singleSigns := by
  induction t generalizing column first afterSpace afterFeed with
  | nil => rfl
  | cons c t ih =>
      obtain ⟨hc, ht⟩ := List.forall_mem_cons.mp ht
      rw [singleFrom, if_neg (by simp [hc]), List.flatMap_cons, singleSigns]
      split
      · rename_i hspace
        have hc' : c ≠ .char '\x27' := by
          rintro rfl
          cases hspace
        rw [if_neg (by simp [breaksHere]), if_neg hc', ih ht]
        rfl
      · split
        · rw [ih ht]
          rfl
        · rw [ih ht]
          rfl

theorem doubleFrom_eq_flatMap :
    doubleFrom false indent column first afterEscape t = t.flatMap doubleSigns := by
  induction t generalizing column first afterEscape with
  | nil => rfl
  | cons c t ih =>
      rw [doubleFrom, List.flatMap_cons, doubleSigns]
      cases hescape : escape? c with
      | some e => simp [ih]
      | none => simp [ih]

theorem plainFrom_false (indent column : Nat) (afterSpace : Bool) (t : Text) :
    plainFrom false indent column afterSpace t = t := by
  induction t generalizing column afterSpace with
  | nil => rfl
  | cons p t ih =>
      rw [plainFrom]
      split
      · rw [if_neg (by simp [breaksHere]), ih]
      · rw [ih]

/-- The form of a text on one line. -/
theorem textFrom_false_cases (indent column : Nat) (ht : ∀ p ∈ t, isFeed p = false) :
    (allowsPlain t = true ∧ textFrom false indent column t = t) ∨
      (allowsPlain t = false ∧ allowsSingle t = true ∧ textFrom false indent column t =
        quote false :: (t.flatMap singleSigns ++ [quote false])) ∨
      (allowsPlain t = false ∧ textFrom false indent column t =
        quote true :: (t.flatMap doubleSigns ++ [quote true])) := by
  have hcases := textFrom_cases false indent column t
  rwa [plainFrom_false, singleFrom_eq_flatMap ht, doubleFrom_eq_flatMap] at hcases

/-- The form of a key depends on no column. -/
theorem textFrom_eq_keyText (indent column : Nat) (ht : ∀ p ∈ t, isFeed p = false) :
    textFrom false indent column t = keyText t := by
  unfold keyText textFrom
  rw [plainFrom_false, plainFrom_false, singleFrom_eq_flatMap ht, singleFrom_eq_flatMap ht,
    doubleFrom_eq_flatMap, doubleFrom_eq_flatMap]

theorem isFeed_of_isSimpleKey (ht : isSimpleKey t = true) : ∀ p ∈ t, isFeed p = false := by
  simp only [isSimpleKey, Bool.and_eq_true, Bool.not_eq_true', List.any_eq_false,
    Bool.or_eq_true, not_or, Bool.not_eq_true] at ht
  exact fun p hp => (ht.2 p hp).1.1.1

theorem isVisible_quote (double : Bool) : IsVisible (quote double) := by
  cases double <;> decide

theorem isVisible_singleSigns (hp : IsVisible p) :
    (∀ q ∈ singleSigns p, IsVisible q) ∧ (singleSigns p).length ≤ 10 := by
  unfold singleSigns
  split <;> simp [hp]

theorem isVisible_doubleSigns (p : CodePoint) :
    (∀ q ∈ doubleSigns p, IsVisible q) ∧ (doubleSigns p).length ≤ 10 := by
  unfold doubleSigns
  cases hescape : escape? p with
  | some e => exact isVisible_escape hescape
  | none => simpa using isVisible_of_escape?_eq_none hescape

theorem length_flatMap_le {signs : CodePoint → Text} (hsigns : ∀ p ∈ t, (signs p).length ≤ 10) :
    (t.flatMap signs).length ≤ 10 * t.length := by
  induction t with
  | nil => exact Nat.zero_le _
  | cons c t ih =>
      obtain ⟨hc, ht⟩ := List.forall_mem_cons.mp hsigns
      have hrest := ih ht
      rw [List.flatMap_cons, List.length_append, List.length_cons]
      omega

/-- A key is printable, and it has at most ten signs for each of its code points besides the
quotes. -/
theorem isVisible_keyText (ht : ∀ p ∈ t, isFeed p = false) :
    (∀ p ∈ keyText t, IsVisible p) ∧ (keyText t).length ≤ 10 * t.length + 2 := by
  have hquoted : ∀ double (signs : CodePoint → Text),
      (∀ p ∈ t, (∀ q ∈ signs p, IsVisible q) ∧ (signs p).length ≤ 10) →
      keyText t = quote double :: (t.flatMap signs ++ [quote double]) →
      (∀ p ∈ keyText t, IsVisible p) ∧ (keyText t).length ≤ 10 * t.length + 2 := by
    intro double signs hsigns hform
    have hlength := length_flatMap_le fun p hp => (hsigns p hp).2
    rw [hform]
    constructor
    · refine List.forall_mem_cons.mpr ⟨isVisible_quote double, List.forall_mem_append.mpr
        ⟨?_, List.forall_mem_singleton.mpr (isVisible_quote double)⟩⟩
      exact List.forall_mem_flatMap.mpr fun p hp => (hsigns p hp).1
    · simp only [List.length_cons, List.length_append, List.length_nil]
      omega
  rcases textFrom_false_cases 0 0 ht with ⟨hplain, hform⟩ | ⟨-, hsingle, hform⟩ | ⟨-, hform⟩
  · rw [keyText, hform]
    exact ⟨isSimple_of_allowsPlain hplain, by omega⟩
  · refine hquoted false singleSigns (fun p hp => isVisible_singleSigns ?_) hform
    exact ⟨isSimple_of_allowsSingle hsingle p hp, ht p hp⟩
  · exact hquoted true doubleSigns (fun p _ => isVisible_doubleSigns p) hform

end Writer
end Yaml
end ActorManifest
