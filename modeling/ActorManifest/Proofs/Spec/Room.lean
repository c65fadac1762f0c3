import ActorManifest.Proofs.Document.Showable
import ActorManifest.Spec.Basic

/-!
# Specs read with more or less room

How much room a machine has for showing a document depends on how deep the program has gone
before.  Where there is room for every part of a document, it makes no difference how much more
there is: the document is shown alike, and so the same spec is read of it, or the same refusal
comes of it.
-/

namespace ActorManifest

open Document

variable {first second : Machine} {levels : Nat}

/-! ## Showing -/

theorem Scalar.residue_congr (hresidue : first.residue = second.residue) (s : Scalar) :
    @residue first s = @residue second s := by
  unfold residue
  split
  all_goals first | rfl | exact congrFun hresidue _

theorem shownMembers_congr (hresidue : first.residue = second.residue) (members : List Scalar) :
    @shownMembers first members = @shownMembers second members := by
  simp only [shownMembers, slotOrder, Scalar.residue_congr hresidue]

namespace Document

mutual

/-- A document is shown alike with room for its levels, however much room there is. -/
theorem shownWithin_congr (hresidue : first.residue = second.residue) :
    (d : Document) → (room more : Nat) → (around : Surroundings) → d.depth ≤ room →
      d.depth ≤ more → @shownWithin first d room around = @shownWithin second d more around
  | .scalar s, _, _, _, _, _ => by simp only [shownWithin]
  | .again label, _, _, _, _, _ => by simp only [shownWithin]
  | .set [], _, _, _, _, _ => by simp only [shownWithin]
  | .set (member :: members), _, _, _, _, _ => by
      simp only [shownWithin, shownMembers_congr hresidue]
  | .knot label body, room, more, around, hroom, hmore => by
      rw [depth] at hroom hmore
      simp only [shownWithin]
      split
      · rfl
      · exact shownWithin_congr hresidue body room more _ hroom hmore
  | .list items, room + 1, more + 1, around, hroom, hmore => by
      rw [depth] at hroom hmore
      simp only [shownWithin, shownItems_congr hresidue items room more around
        (Nat.le_of_succ_le_succ hroom) (Nat.le_of_succ_le_succ hmore)]
  | .pair one other, room + 1, more + 1, around, hroom, hmore => by
      rw [depth] at hroom hmore
      obtain ⟨hone, hother⟩ := Nat.max_le.mp (Nat.le_of_succ_le_succ hroom)
      obtain ⟨hone', hother'⟩ := Nat.max_le.mp (Nat.le_of_succ_le_succ hmore)
      simp only [shownWithin, shownWithin_congr hresidue one room more around hone hone',
        shownWithin_congr hresidue other room more around hother hother']
  | .mapping entries, room + 1, more + 1, around, hroom, hmore => by
      rw [depth] at hroom hmore
      simp only [shownWithin, shownEntries_congr hresidue entries room more around
        (Nat.le_of_succ_le_succ hroom) (Nat.le_of_succ_le_succ hmore)]

theorem shownItems_congr (hresidue : first.residue = second.residue) :
    (items : List Document) → (room more : Nat) → (around : Surroundings) →
      depthOfItems items ≤ room → depthOfItems items ≤ more →
        @shownItems first items room around = @shownItems second items more around
  | [], _, _, _, _, _ => by simp only [shownItems]
  | item :: items, room, more, around, hroom, hmore => by
      rw [depthOfItems, Nat.max_le] at hroom hmore
      simp only [shownItems,
        shownWithin_congr hresidue item room more around hroom.1 hmore.1,
        shownItems_congr hresidue items room more around hroom.2 hmore.2]

theorem shownEntries_congr (hresidue : first.residue = second.residue) :
    (entries : DocumentEntries) → (room more : Nat) → (around : Surroundings) →
      depthOfEntries entries ≤ room → depthOfEntries entries ≤ more →
        @shownEntries first entries room around = @shownEntries second entries more around
  | [], _, _, _, _, _ => by simp only [shownEntries]
  | (key, value) :: entries, room, more, around, hroom, hmore => by
      rw [depthOfEntries, Nat.max_le] at hroom hmore
      simp only [shownEntries,
        shownWithin_congr hresidue value room more around hroom.1 hmore.1,
        shownEntries_congr hresidue entries room more around hroom.2 hmore.2]

end

end Document

/-! ## Reading -/

theorem entriesOf_bind_congr {α : Type} {owner : Owner} {d : Document}
    {f g : DocumentEntries → Except Refusal α}
    (hsame : ∀ entries, d.entries? = some entries → f entries = g entries) :
    (entriesOf owner d >>= f) = (entriesOf owner d >>= g) := by
  unfold entriesOf
  cases hentries : d.entries? with
  | none => rfl
  | some entries => exact hsame entries hentries

section

variable (hresidue : first.residue = second.residue) (hfirst : levels ≤ first.shownLevels)
  (hsecond : levels ≤ second.shownLevels)

include hresidue hfirst hsecond

variable {d : Document} {entries : DocumentEntries}

theorem shown_congr (hd : d.IsWithin levels) : @shown first d = @shown second d :=
  have hdepth := hd d .self
  shownWithin_congr hresidue d _ _ [] (Nat.le_trans hdepth hfirst) (Nat.le_trans hdepth hsecond)

theorem toText_congr (hd : d.IsWithin levels) : @toText first d = @toText second d := by
  cases d with
  | scalar s => rfl
  | list _ | pair _ _ | set _ | mapping _ | knot _ _ | again _ =>
      exact shown_congr hresidue hfirst hsecond hd

theorem shownOr_congr (hd : d.IsWithin levels) (refusal : Text → Refusal) :
    @shownOr first d refusal = @shownOr second d refusal := by
  simp only [shownOr, shown_congr hresidue hfirst hsecond hd]

namespace Field

variable {owner : Owner} {field : String}

theorem bool?_congr (hentries : entries.AreWithin levels) :
    @bool? first owner field entries = @bool? second owner field entries := by
  unfold bool?
  split
  · rfl
  · rfl
  · rfl
  · rename_i hentry
    rw [shownOr_congr hresidue hfirst hsecond (hentries _ (mem_of_lookup? hentry))]

theorem variableOf_congr {entry : Scalar × Document} (hentry : entry.2.IsWithin levels) :
    @variableOf first owner field entry = @variableOf second owner field entry := by
  have hcontent : @variableText first entry.2 = @variableText second entry.2 := by
    unfold variableText
    split
    · rfl
    · exact toText_congr hresidue hfirst hsecond hentry
  unfold variableOf
  split
  · rfl
  · rw [hcontent]

theorem variables?_congr (hentries : entries.AreWithin levels) :
    @variables? first owner field entries = @variables? second owner field entries := by
  unfold variables?
  split
  · rfl
  · rfl
  · rename_i d _ hentry
    have hd := hentries _ (mem_of_lookup? hentry)
    split
    · rename_i items hitems
      rw [mapM_congr fun item hitem => variableOf_congr hresidue hfirst hsecond
        (areWithin_of_entries? hd hitems item hitem)]
    · rfl

omit hresidue hfirst hsecond in
theorem list?_congr {α : Type} {read reread : Document → Except Refusal α}
    (hread : ∀ d, d.IsWithin levels → read d = reread d) (hentries : entries.AreWithin levels) :
    list? owner field read entries = list? owner field reread entries := by
  unfold list?
  split
  · rfl
  · rfl
  · rename_i d _ hentry
    have hd := hentries _ (mem_of_lookup? hentry)
    split
    · rename_i items hitems
      rw [mapM_congr fun item hitem => hread item (isWithin_of_items? hd hitems item hitem)]
    · rfl

end Field

theorem Port.ofDocument_congr (hd : d.IsWithin levels) :
    @Port.ofDocument first d = @Port.ofDocument second d := by
  refine entriesOf_bind_congr fun entries hentries => ?_
  have hwithin := areWithin_of_entries? hd hentries
  split
  · rfl
  · rename_i number hentry
    have hnumber := hwithin _ (mem_of_lookup? hentry)
    rw [Field.bool?_congr hresidue hfirst hsecond hwithin]
    refine bind_congr fun expose => bind_congr fun protocol => ?_
    unfold ofParts
    split
    · rfl
    · rw [shownOr_congr hresidue hfirst hsecond hnumber]

theorem Service.ofDocument_congr (hd : d.IsWithin levels) :
    @Service.ofDocument first d = @Service.ofDocument second d := by
  refine entriesOf_bind_congr fun entries hentries => ?_
  have hwithin := areWithin_of_entries? hd hentries
  split
  · rename_i items hfound
    obtain ⟨ports, hentry, hitems⟩ := Option.bind_eq_some_iff.mp hfound
    have hports := hwithin _ (mem_of_lookup? hentry)
    rw [mapM_congr fun item hitem => Port.ofDocument_congr hresidue hfirst hsecond
      (isWithin_of_items? hports hitems item hitem)]
  · rfl

theorem Build.ofDocument_congr (hd : d.IsWithin levels) :
    @Build.ofDocument first d = @Build.ofDocument second d := by
  refine entriesOf_bind_congr fun entries hentries => ?_
  rw [Field.variables?_congr hresidue hfirst hsecond (areWithin_of_entries? hd hentries)]

namespace Spec

theorem build?_congr (hentries : entries.AreWithin levels) :
    @build? first entries = @build? second entries := by
  unfold build?
  split
  · rfl
  · rfl
  · rename_i hentry
    rw [Build.ofDocument_congr hresidue hfirst hsecond (hentries _ (mem_of_lookup? hentry))]

/-- With room for every part of the document, a spec is read of it or refused alike. -/
theorem ofDocument_congr (hd : d.IsWithin levels) :
    @ofDocument first d = @ofDocument second d := by
  refine entriesOf_bind_congr fun entries hentries => ?_
  have hwithin := areWithin_of_entries? hd hentries
  rw [Field.bool?_congr hresidue hfirst hsecond hwithin,
    Field.list?_congr (fun d hd => Service.ofDocument_congr hresidue hfirst hsecond hd) hwithin,
    Field.variables?_congr hresidue hfirst hsecond hwithin,
    build?_congr hresidue hfirst hsecond hwithin]

end Spec

end

end ActorManifest
