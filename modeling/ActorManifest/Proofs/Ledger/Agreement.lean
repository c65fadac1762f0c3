import ActorManifest.Proofs.Ledger.Basic
import ActorManifest.Proofs.Time.Wire
import Mathlib.Data.List.Forall2

/-!
# Ledgers that agree to the second

Two conditions agree if they differ in nothing but the part of a second of their times, and
two ledgers agree if their conditions do, one by one.  No operation can tell ledgers that
agree apart: each depends on phases and statuses alone, and the time that a write keeps is
the time of two conditions that agree.
-/

namespace ActorManifest

/-- Two conditions that tell the same, their times compared by whole seconds. -/
structure Condition.AgreesWith (c d : Condition) : Prop where
  phase : c.phase = d.phase
  asserted : c.asserted = d.asserted
  reason : c.reason = d.reason
  message : c.message = d.message
  generation : c.generation = d.generation
  second : c.since.second = d.since.second

theorem Condition.AgreesWith.refl (c : Condition) : c.AgreesWith c :=
  ⟨rfl, rfl, rfl, rfl, rfl, rfl⟩

theorem Condition.AgreesWith.trans
    {b c d : Condition} (hbc : b.AgreesWith c) (hcd : c.AgreesWith d) : b.AgreesWith d where
  phase := hbc.phase.trans hcd.phase
  asserted := hbc.asserted.trans hcd.asserted
  reason := hbc.reason.trans hcd.reason
  message := hbc.message.trans hcd.message
  generation := hbc.generation.trans hcd.generation
  second := hbc.second.trans hcd.second

namespace Ledger

/-- Two ledgers whose conditions agree one by one. -/
def AgreesWith (l m : Ledger) : Prop :=
  List.Forall₂ Condition.AgreesWith l.conditions m.conditions

theorem AgreesWith.refl (l : Ledger) : l.AgreesWith l :=
  List.forall₂_same.mpr fun c _ => .refl c

theorem trans_of_forall₂
    {as bs cs : List Condition} (hab : List.Forall₂ Condition.AgreesWith as bs)
    (hbc : List.Forall₂ Condition.AgreesWith bs cs) :
    List.Forall₂ Condition.AgreesWith as cs := by
  induction hab generalizing cs with
  | nil => exact hbc
  | cons hab _ ih =>
      cases hbc with
      | cons hbc hrest => exact .cons (hab.trans hbc) (ih hrest)

theorem AgreesWith.trans
    {k l m : Ledger} (hkl : k.AgreesWith l) (hlm : l.AgreesWith m) : k.AgreesWith m :=
  trans_of_forall₂ hkl hlm

/-! ## Lists of conditions that agree -/

theorem find?_of_forall₂
    {cs ds : List Condition} (hagree : List.Forall₂ Condition.AgreesWith cs ds)
    (phase : Phase) :
    Option.Rel Condition.AgreesWith (find? phase cs) (find? phase ds) := by
  induction hagree with
  | nil => exact .none
  | @cons c d cs ds hcd _ ih =>
      simp only [find?, List.find?_cons, hcd.phase] at ih ⊢
      cases d.phase == phase with
      | true => exact .some hcd
      | false => exact ih

theorem place_of_forall₂
    {c d : Condition} {cs ds : List Condition} (hcd : c.AgreesWith d)
    (hagree : List.Forall₂ Condition.AgreesWith cs ds) :
    List.Forall₂ Condition.AgreesWith (place c cs) (place d ds) := by
  induction hagree with
  | nil => exact .cons hcd .nil
  | @cons a b as bs hab hrest ih =>
      simp only [place, hab.phase, hcd.phase]
      split
      · exact .cons hcd hrest
      · exact .cons hab ih

/-! ## Operations on ledgers that agree -/

variable {l m : Ledger}

theorem get?_of_agreesWith (hagree : l.AgreesWith m) (phase : Phase) :
    Option.Rel Condition.AgreesWith (l.get? phase) (m.get? phase) :=
  find?_of_forall₂ hagree phase

/-- A write stores conditions that agree: either both keep the time that is there or both
bring their own. -/
theorem stored_of_agreesWith
    {c d : Condition} (hagree : l.AgreesWith m) (hcd : c.AgreesWith d) :
    (l.stored c).AgreesWith (m.stored d) := by
  have hget := get?_of_agreesWith hagree c.phase
  unfold stored
  rw [← hcd.phase, ← hcd.asserted]
  generalize l.get? c.phase = old, m.get? c.phase = new at hget ⊢
  cases hget with
  | none => exact hcd
  | some hold =>
      simp only [hold.asserted]
      split
      · exact ⟨rfl, rfl, hcd.reason, hcd.message, hcd.generation, hold.second⟩
      · exact hcd

theorem set_of_agreesWith
    {c d : Condition} (hagree : l.AgreesWith m) (hcd : c.AgreesWith d) :
    (l.set c).AgreesWith (m.set d) :=
  place_of_forall₂ (stored_of_agreesWith hagree hcd) hagree

theorem erase_of_agreesWith (hagree : l.AgreesWith m) (phase : Phase) :
    (l.erase phase).AgreesWith (m.erase phase) := by
  refine List.rel_filter ?_ hagree
  intro c d hcd
  simp [hcd.phase]

/-- An operation takes ledgers that agree to ledgers that agree. -/
theorem apply_of_agreesWith (hagree : l.AgreesWith m) (operation : Operation) :
    (l.apply operation).AgreesWith (m.apply operation) := by
  cases operation with
  | set c => exact set_of_agreesWith hagree (.refl c)
  | erase phase => exact erase_of_agreesWith hagree phase

/-! ## What ledgers that agree answer -/

theorem isAsserted_of_agreesWith (hagree : l.AgreesWith m) (phase : Phase) :
    l.isAsserted phase = m.isAsserted phase := by
  have hget := get?_of_agreesWith hagree phase
  unfold isAsserted
  generalize l.get? phase = old, m.get? phase = new at hget ⊢
  cases hget with
  | none => rfl
  | some hcd => exact hcd.asserted

theorem phase?_of_agreesWith (hagree : l.AgreesWith m) : l.phase? = m.phase? := by
  have hasserted : l.isAsserted = m.isAsserted :=
    funext fun phase => isAsserted_of_agreesWith hagree phase
  rw [phase?, phase?, hasserted]

end Ledger
end ActorManifest
