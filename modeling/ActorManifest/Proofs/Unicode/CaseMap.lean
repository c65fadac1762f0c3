import ActorManifest.Proofs.Text.CodePoint
import ActorManifest.Status.Reason
import Mathlib.Data.List.Basic

/-!
# Counterparts in case

The tables of runs are compared run by run: two runs have no member in common if they lie apart
or if their members alternate.  The counterparts of a run are a run again, so one look at each
pair of runs tells of all code points at once what their counterparts are like.
-/

namespace ActorManifest
namespace Unicode

/-! ## Runs without a common member -/

namespace Run

variable {a b : Run} {runs : List Run} {n : Nat}

theorem holds_iff :
    a.holds n = true ↔ a.first ≤ n ∧ n ≤ a.last ∧ (n - a.first) % a.step = 0 := by
  simp [holds, and_assoc]

/-- Whether two runs have no member in common: one ends before the other, or their members
alternate, or one has a single member that the other lacks. -/
def isApart (a b : Run) : Bool :=
  Nat.blt a.last b.first || Nat.blt b.last a.first ||
    (Nat.beq a.step 2 && Nat.beq b.step 2 && Nat.beq ((a.first + b.first) % 2) 1) ||
    (Nat.beq a.first a.last && !b.holds a.first) || (Nat.beq b.first b.last && !a.holds b.first)

theorem not_holds_of_isApart (hapart : a.isApart b = true) (ha : a.holds n = true) :
    b.holds n = false := by
  rw [Bool.eq_false_iff]
  intro hb
  have hfirst := holds_iff.mp ha
  have hsecond := holds_iff.mp hb
  simp only [isApart, Bool.or_eq_true, Bool.and_eq_true, Bool.not_eq_true', Nat.beq_eq,
    Nat.blt_eq] at hapart
  rcases hapart with (((hbefore | hafter) | ⟨⟨hstep, hstep'⟩, hodd⟩) | ⟨hsingle, hmissing⟩) |
    ⟨hsingle, hmissing⟩
  · omega
  · omega
  · rw [hstep] at hfirst
    rw [hstep'] at hsecond
    omega
  · have hn : a.first = n := by omega
    rw [hn, hb] at hmissing
    cases hmissing
  · have hn : b.first = n := by omega
    rw [hn, ha] at hmissing
    cases hmissing

/-- Whether no run of a sorted list has a member in common with a run. -/
def isApartFrom (a : Run) : List Run → Bool
  | [] => true
  | b :: rest => Nat.blt a.last b.first || (a.isApart b && isApartFrom a rest)

theorem covers_eq_false_of_isApartFrom (hapart : a.isApartFrom runs = true)
    (ha : a.holds n = true) : covers n runs = false := by
  induction runs with
  | nil => rfl
  | cons b rest ih =>
      rw [isApartFrom, Bool.or_eq_true, Bool.and_eq_true, Nat.blt_eq] at hapart
      unfold covers
      rcases hapart with hbefore | ⟨hb, hrest⟩
      · have hlast := (holds_iff.mp ha).2.1
        rw [if_pos (by omega)]
      · rw [not_holds_of_isApart hb ha, ih hrest]
        simp

/-- Whether all members of a run are members of one run of a sorted list. -/
def isWithin (a : Run) : List Run → Bool
  | [] => false
  | b :: rest =>
    Nat.ble b.first a.first && ((Nat.ble a.last b.last && Nat.beq b.step 1) || isWithin a rest)

theorem covers_of_isWithin (hwithin : a.isWithin runs = true) (ha : a.holds n = true) :
    covers n runs = true := by
  induction runs with
  | nil => cases hwithin
  | cons b rest ih =>
      have hbounds := holds_iff.mp ha
      simp only [isWithin, Bool.or_eq_true, Bool.and_eq_true, Nat.ble_eq, Nat.beq_eq] at hwithin
      obtain ⟨hfirst, ⟨hlast, hstep⟩ | hrest⟩ := hwithin
      · have hholds : b.holds n = true := by
          rw [holds_iff, hstep]
          omega
        unfold covers
        rw [if_neg (by omega), hholds]
        rfl
      · unfold covers
        rw [if_neg (by omega), ih hrest, Bool.or_true]

/-- The members of a run. -/
def members (a : Run) : List Nat :=
  List.range' a.first ((a.last - a.first) / a.step + 1) a.step

theorem mem_members_of_holds (ha : a.holds n = true) : n ∈ a.members := by
  obtain ⟨hfirst, hlast, hstep⟩ := holds_iff.mp ha
  have hdistance : a.step * ((n - a.first) / a.step) = n - a.first := by
    have hdivision := Nat.div_add_mod (n - a.first) a.step
    omega
  have hcount : (n - a.first) / a.step ≤ (a.last - a.first) / a.step :=
    Nat.div_le_div_right (by omega)
  rw [members, List.mem_range']
  exact ⟨(n - a.first) / a.step, by omega, by omega⟩

end Run

/-! ## Counterparts of a run -/

namespace Shift

/-- The run of the counterparts. -/
def image (s : Shift) : Run :=
  ⟨(s.run.first + s.distance).toNat, (s.run.last + s.distance).toNat, s.run.step⟩

theorem image_holds {s : Shift} {n : Nat} (hstart : 0 ≤ s.run.first + s.distance)
    (hn : s.run.holds n = true) : s.image.holds (n + s.distance).toNat = true := by
  obtain ⟨hfirst, hlast, hstep⟩ := Run.holds_iff.mp hn
  have hdistance : (n + s.distance).toNat - (s.run.first + s.distance).toNat =
      n - s.run.first := by omega
  simp only [Run.holds_iff, image, hdistance]
  exact ⟨by omega, by omega, hstep⟩

theorem apply_cases (n : Nat) (shifts : List Shift) :
    apply n shifts = n ∨
      ∃ s ∈ shifts, s.run.holds n = true ∧ apply n shifts = (n + s.distance).toNat := by
  induction shifts with
  | nil => exact .inl rfl
  | cons s rest ih =>
      unfold apply
      split
      · exact .inl rfl
      · split
        · rename_i hholds
          exact .inr ⟨s, List.mem_cons_self, hholds, rfl⟩
        · exact ih.imp_right fun ⟨s, hs, hrest⟩ => ⟨s, List.mem_cons_of_mem _ hs, hrest⟩

/-- A number in none of the runs has no counterpart. -/
theorem apply_eq_self {a : Run} {n : Nat} {shifts : List Shift}
    (hapart : a.isApartFrom (shifts.map Shift.run) = true) (ha : a.holds n = true) :
    apply n shifts = n := by
  induction shifts with
  | nil => rfl
  | cons s rest ih =>
      rw [List.map_cons, Run.isApartFrom, Bool.or_eq_true, Bool.and_eq_true, Nat.blt_eq] at hapart
      unfold apply
      rcases hapart with hbefore | ⟨hs, hrest⟩
      · have hlast := (Run.holds_iff.mp ha).2.1
        rw [if_pos (by omega)]
      · rw [Run.not_holds_of_isApart hs ha, ih hrest]
        simp

end Shift

/-! ## Counterparts of a code point -/

/-- How the counterparts of a code point come about: it has none but itself, or several by an
entry of its own, or one at the distance of a run. -/
inductive IsCounterpart (expansions : List (Nat × List Nat)) (shifts : List Shift)
    (c : CodePoint) : Text → Prop
  | own : IsCounterpart expansions shifts c [c]
  | expanded {ns : List Nat} (hentry : (c.toNat, ns) ∈ expansions) :
      IsCounterpart expansions shifts c (ns.filterMap CodePoint.ofNat?)
  | shifted {s : Shift} {t : CodePoint} (hs : s ∈ shifts) (hholds : s.run.holds c.toNat = true)
      (ht : t.toNat = (c.toNat + s.distance).toNat) : IsCounterpart expansions shifts c [t]

theorem isCounterpart_counterpart
    (expansions : List (Nat × List Nat)) (shifts : List Shift) (c : CodePoint) :
    IsCounterpart expansions shifts c (counterpart expansions shifts c) := by
  unfold counterpart
  split
  · rename_i ns hlookup
    obtain ⟨before, after, rfl, -⟩ := List.lookup_eq_some_iff.mp hlookup
    exact .expanded (by simp)
  · cases hnumber : CodePoint.ofNat? (Shift.apply c.toNat shifts) with
    | none => exact .own
    | some t =>
        rw [Option.getD_some]
        have ht := CodePoint.toNat_of_ofNat? hnumber
        rcases Shift.apply_cases c.toNat shifts with hself | ⟨s, hs, hholds, hshifted⟩
        · rw [hself, CodePoint.ofNat?_toNat] at hnumber
          obtain rfl := Option.some.inj hnumber
          exact .own
        · exact .shifted hs hholds (ht.trans hshifted)

/-- The code point is its own counterpart at the start of a word. -/
def IsTitle (c : CodePoint) : Prop :=
  toTitle c = [c]

/-- The code point is its own lower-case counterpart. -/
def IsSmall (c : CodePoint) : Prop :=
  toLower c = [c]

instance (c : CodePoint) : Decidable (IsTitle c) :=
  inferInstanceAs (Decidable (toTitle c = [c]))

instance (c : CodePoint) : Decidable (IsSmall c) :=
  inferInstanceAs (Decidable (toLower c = [c]))

/-! ## Looking through the tables -/

/-- Whether a text can be what a number has as its counterparts at the start of a word. -/
def isTitleForm (n : Nat) : Text → Bool
  | [] => false
  | t :: rest =>
    decide (IsTitle t) && t.toNat != n && (!Run.covers n wordRuns || isWordSign t) &&
      (rest.all fun q => !isUpper q || decide (IsTitle q)) &&
      (t :: rest).all fun q => isDigit q == Run.covers n digitRuns

theorem titleExpansions_form :
    ∀ e ∈ titleExpansions, isTitleForm e.1 (e.2.filterMap CodePoint.ofNat?) = true := by
  decide +kernel

theorem titleShifts_image :
    ∀ s ∈ titleShifts, 0 ≤ (s.run.first : Int) + s.distance ∧
      s.image.isApartFrom (titleShifts.map Shift.run) = true ∧
      ∀ e ∈ titleExpansions, s.image.isApart ⟨e.1, e.1, 1⟩ = true := by
  decide +kernel

theorem titleShifts_word :
    ∀ s ∈ titleShifts, s.image.isWithin wordRuns = true ∨
      s.run.isApartFrom wordRuns = true ∨
      ∀ n ∈ s.run.members, Run.covers (n + s.distance).toNat wordRuns = true := by
  decide +kernel

theorem lowerShifts_image :
    ∀ s ∈ lowerShifts, 0 ≤ (s.run.first : Int) + s.distance ∧
      s.image.isApartFrom upperRuns = true := by
  decide +kernel

theorem shifts_digit :
    ∀ s ∈ titleShifts ++ lowerShifts, s.run.isApartFrom digitRuns = true ∧
      s.image.isApartFrom digitRuns = true := by
  decide +kernel

/-- What is upper case and has a title-case form of its own has a lower-case form, too. -/
theorem titleShifts_upper :
    ∀ s ∈ titleShifts, s.run.isApartFrom upperRuns = true ∨
      ∀ n ∈ s.run.members, ∀ c ∈ CodePoint.ofNat? n, ¬IsSmall c := by
  decide +kernel

theorem titleExpansions_upper :
    ∀ e ∈ titleExpansions, Run.covers e.1 upperRuns = false := by
  decide +kernel

/-! ## Words begin with title-case code points -/

theorem isTitle_of_shifted {s : Shift} {c t : CodePoint} (hs : s ∈ titleShifts)
    (hholds : s.run.holds c.toNat = true) (ht : t.toNat = (c.toNat + s.distance).toNat) :
    IsTitle t := by
  obtain ⟨hstart, hapart, hkeys⟩ := titleShifts_image s hs
  have himage := Shift.image_holds hstart hholds
  rw [← ht] at himage
  have hlookup : titleExpansions.lookup t.toNat = none := by
    rw [List.lookup_eq_none_iff]
    intro e he
    have hkey := Run.not_holds_of_isApart (hkeys e he) himage
    rw [bne_iff_ne]
    intro heq
    simp [Run.holds, heq] at hkey
  rw [IsTitle, toTitle, counterpart, hlookup]
  simp only [Shift.apply_eq_self hapart himage, CodePoint.ofNat?_toNat, Option.getD_some]

theorem isWordSign_of_shifted {s : Shift} {c t : CodePoint} (hs : s ∈ titleShifts)
    (hholds : s.run.holds c.toNat = true) (ht : t.toNat = (c.toNat + s.distance).toNat)
    (hc : isWordSign c = true) : isWordSign t = true := by
  rw [isWordSign, ht]
  rcases titleShifts_word s hs with hwithin | hapart | hmembers
  · exact Run.covers_of_isWithin hwithin (Shift.image_holds (titleShifts_image s hs).1 hholds)
  · rw [isWordSign, Run.covers_eq_false_of_isApartFrom hapart hholds] at hc
    cases hc
  · exact hmembers c.toNat (Run.mem_members_of_holds hholds)

theorem isDigit_of_shifted {s : Shift} {c t : CodePoint} (hs : s ∈ titleShifts ++ lowerShifts)
    (hstart : 0 ≤ (s.run.first : Int) + s.distance) (hholds : s.run.holds c.toNat = true)
    (ht : t.toNat = (c.toNat + s.distance).toNat) : isDigit t = isDigit c := by
  obtain ⟨hrun, himage⟩ := shifts_digit s hs
  rw [isDigit, isDigit, ht, Run.covers_eq_false_of_isApartFrom hrun hholds,
    Run.covers_eq_false_of_isApartFrom himage (Shift.image_holds hstart hholds)]

/-- What is known of the counterparts of a code point at the start of a word: the first of them
is in title case, and it is not the code point itself if there are others. -/
structure IsTitleForm (c t : CodePoint) (rest : Text) : Prop where
  title : IsTitle t
  single : t = c → rest = []
  word : isWordSign c = true → isWordSign t = true
  upper : ∀ q ∈ rest, isUpper q = true → IsTitle q
  digit : ∀ q ∈ t :: rest, isDigit q = isDigit c

theorem isTitleForm_of_isTitleForm {c t : CodePoint} {rest : Text}
    (hform : isTitleForm c.toNat (t :: rest) = true) : IsTitleForm c t rest := by
  simp only [isTitleForm, Bool.and_eq_true, decide_eq_true_eq, bne_iff_ne, Bool.or_eq_true,
    Bool.not_eq_true', List.all_eq_true, beq_iff_eq] at hform
  obtain ⟨⟨⟨⟨htitle, hother⟩, hword⟩, hupper⟩, hdigit⟩ := hform
  refine ⟨htitle, fun heq => absurd (congrArg CodePoint.toNat heq) hother, fun hc => ?_,
    fun q hq hup => ?_, hdigit⟩
  · exact hword.resolve_left (by simpa [isWordSign] using hc)
  · exact (hupper q hq).resolve_left (by simp [hup])

theorem exists_isTitleForm (c : CodePoint) :
    ∃ t rest, toTitle c = t :: rest ∧ IsTitleForm c t rest := by
  have hform := isCounterpart_counterpart titleExpansions titleShifts c
  rw [← toTitle] at hform
  generalize hts : toTitle c = ts at hform
  cases hform with
  | own => exact ⟨c, [], rfl, hts, fun _ => rfl, id, by simp, by simp⟩
  | @expanded ns hentry =>
      have hexpansion := titleExpansions_form _ hentry
      cases hns : ns.filterMap CodePoint.ofNat? with
      | nil =>
          rw [hns] at hexpansion
          cases hexpansion
      | cons t rest =>
          rw [hns] at hexpansion
          exact ⟨t, rest, rfl, isTitleForm_of_isTitleForm hexpansion⟩
  | @shifted s t hs hholds ht =>
      refine ⟨t, [], rfl, isTitle_of_shifted hs hholds ht, fun _ => rfl,
        isWordSign_of_shifted hs hholds ht, by simp, ?_⟩
      simpa using isDigit_of_shifted (List.mem_append_left _ hs) (titleShifts_image s hs).1
        hholds ht

/-! ## Words go on in lower case -/

/-- An upper-case code point without a lower-case counterpart has none in title case. -/
theorem isTitle_of_isUpper {c : CodePoint} (hupper : isUpper c = true) (hsmall : IsSmall c) :
    IsTitle c := by
  have hform := isCounterpart_counterpart titleExpansions titleShifts c
  rw [← toTitle] at hform
  generalize hts : toTitle c = ts at hform
  cases hform with
  | own => exact hts
  | expanded hentry =>
      rw [isUpper, titleExpansions_upper _ hentry] at hupper
      cases hupper
  | @shifted s t hs hholds _ =>
      rcases titleShifts_upper s hs with hapart | hlowered
      · rw [isUpper, Run.covers_eq_false_of_isApartFrom hapart hholds] at hupper
        cases hupper
      · exact absurd hsmall
          (hlowered c.toNat (Run.mem_members_of_holds hholds) c (CodePoint.ofNat?_toNat c))

/-- What is known of the lower-case counterparts of a code point. -/
structure IsLowerForm (c : CodePoint) (ts : Text) : Prop where
  filled : ts ≠ []
  single : ∀ rest, ts = c :: rest → rest = []
  upper : ∀ q ∈ ts, isUpper q = true → IsTitle q
  digit : ∀ q ∈ ts, isDigit q = isDigit c

theorem isLowerForm_toLower (c : CodePoint) : IsLowerForm c (toLower c) := by
  have hform := isCounterpart_counterpart lowerExpansions lowerShifts c
  rw [← toLower] at hform
  generalize hts : toLower c = ts at hform
  cases hform with
  | own =>
      refine ⟨by simp, by simp, ?_, by simp⟩
      intro q hq hupper
      rw [List.mem_singleton] at hq
      rw [hq] at hupper ⊢
      exact isTitle_of_isUpper hupper hts
  | @expanded ns hentry =>
      obtain ⟨hc, rfl⟩ := Prod.mk.inj (List.mem_singleton.mp hentry)
      obtain rfl : c = .char 'İ' := CodePoint.toNat_inj hc
      have hdotted : [0x69, 0x307].filterMap CodePoint.ofNat? =
          [.char 'i', .char '\u0307'] := by decide
      rw [hdotted]
      refine ⟨by simp, ?_, by decide +kernel, by decide +kernel⟩
      intro rest heq
      exact absurd (List.cons.inj heq).1 (by decide)
  | @shifted s t hs hholds ht =>
      obtain ⟨hstart, himage⟩ := lowerShifts_image s hs
      refine ⟨by simp, by simp, ?_, ?_⟩
      · intro q hq hupper
        rw [List.mem_singleton] at hq
        rw [hq, isUpper, ht, Run.covers_eq_false_of_isApartFrom himage
          (Shift.image_holds hstart hholds)] at hupper
        cases hupper
      · simpa using isDigit_of_shifted (List.mem_append_right _ hs) hstart hholds ht

end Unicode
end ActorManifest
