import ActorManifest.Document.Order
import Mathlib.Data.List.Induction

/-!
# Keys that can be put in order

Scalars have an order if they are of one kind.  So some keys are put in order if all of them are of
one kind, or if there is only one of them, and the order leaves none of them out.
-/

namespace ActorManifest
namespace Scalar

/-- The kinds of scalars that are ordered among themselves. -/
inductive OrderKind where
  | number
  | text
  | bytes
  | date
  /-- Timestamps without an offset. -/
  | clock
  /-- Timestamps with an offset. -/
  | moment
deriving DecidableEq

/-- The kind of a scalar that is ordered among others.  Null is not. -/
def orderKind? : Scalar → Option OrderKind
  | .null => none
  | .bool _ | .int _ | .float _ => some .number
  | .text _ => some .text
  | .bytes _ => some .bytes
  | .date _ => some .date
  | .time ⟨_, _, none⟩ => some .clock
  | .time ⟨_, _, some _⟩ => some .moment

theorem isSome_fraction?_iff {s : Scalar} : s.fraction?.isSome ↔ s.orderKind? = some .number := by
  cases s with
  | float x => cases x <;> simp [fraction?, orderKind?]
  | time t => rcases t with ⟨date, clock, _ | offset⟩ <;> simp [fraction?, orderKind?]
  | null | bool b | int n | text t | bytes octets | date d => simp [fraction?, orderKind?]

/-- What is no number has an order with what is of its kind. -/
theorem isSome_below?_of_fraction?_eq_none {a b : Scalar} (ha : a.fraction? = none)
    (hb : b.fraction? = none) :
    (a.below? b).isSome ↔ ∃ kind, a.orderKind? = some kind ∧ b.orderKind? = some kind := by
  unfold below?
  rw [ha, hb]
  cases a with
  | bool _ | int _ => cases ha
  | float x => rcases x with _ | _ | _ <;> cases ha
  | null | text _ | bytes _ | date _ =>
      cases b with
      | time t => rcases t with ⟨date, clock, _ | offset⟩ <;> simp [orderKind?]
      | _ => simp [orderKind?]
  | time s =>
      rcases s with ⟨date, clock, _ | offset⟩ <;>
        cases b with
        | time t => rcases t with ⟨date, clock, _ | offset⟩ <;> simp [orderKind?]
        | _ => simp [orderKind?]

/-- Two scalars have an order if and only if they are of one kind. -/
theorem isSome_below?_iff {a b : Scalar} :
    (a.below? b).isSome ↔ ∃ kind, a.orderKind? = some kind ∧ b.orderKind? = some kind := by
  have hnumber := isSome_fraction?_iff (s := a)
  have hother := isSome_fraction?_iff (s := b)
  cases ha : a.fraction? with
  | some x =>
      cases hb : b.fraction? with
      | some y => simp_all [below?]
      | none => simp_all [below?]
  | none =>
      cases hb : b.fraction? with
      | some y => simp_all [below?]
      | none => exact isSome_below?_of_fraction?_eq_none ha hb

/-- The keys are of one kind, or there is only one of them. -/
def AreOrdered (keys : List Scalar) : Prop :=
  keys.length ≤ 1 ∨ ∃ kind, ∀ key ∈ keys, key.orderKind? = some kind

end Scalar

namespace Document

open Scalar

theorem exists_insertKey?
    {kind : OrderKind} {key : Scalar} {keys : List Scalar} (hkey : key.orderKind? = some kind)
    (hkeys : ∀ k ∈ keys, k.orderKind? = some kind) :
    ∃ sorted : List Scalar,
      insertKey? (.scalar key) (keys.map .scalar) = some (sorted.map .scalar) ∧
        sorted.Perm (key :: keys) := by
  induction keys with
  | nil => exact ⟨[key], rfl, .refl _⟩
  | cons k rest ih =>
      obtain ⟨hk, hrest⟩ := List.forall_mem_cons.mp hkeys
      obtain ⟨sorted, hsorted, hperm⟩ := ih hrest
      obtain ⟨below, hbelow⟩ := Option.isSome_iff_exists.mp (isSome_below?_iff.mpr ⟨kind, hkey, hk⟩)
      have hfirst : (Document.scalar key).below? (.scalar k) = some below := hbelow
      rw [List.map_cons, insertKey?, hfirst]
      cases below with
      | true => exact ⟨key :: k :: rest, rfl, .refl _⟩
      | false =>
          refine ⟨k :: sorted, ?_, (hperm.cons k).trans (.swap key k rest)⟩
          simp [hsorted]

/-- A key is put before or behind another one only if both are of one kind. -/
theorem exists_orderKind?_of_insertKey?
    {key k : Scalar} {rest sorted : List Document}
    (hinsert : insertKey? (.scalar key) (.scalar k :: rest) = some sorted) :
    ∃ kind, key.orderKind? = some kind ∧ k.orderKind? = some kind := by
  rw [← isSome_below?_iff]
  cases hbelow : key.below? k with
  | some below => rfl
  | none =>
      have hfirst : (Document.scalar key).below? (.scalar k) = none := hbelow
      simp [insertKey?, hfirst] at hinsert

theorem sortKeys?_append_singleton (keys : List Document) (key : Document) :
    sortKeys? (keys ++ [key]) = (sortKeys? keys).bind (insertKey? key) := by
  simp [sortKeys?, List.foldlM_append]

theorem exists_sortKeys?_of_areOrdered {keys : List Scalar} (hordered : AreOrdered keys) :
    ∃ sorted : List Scalar, sortKeys? (keys.map .scalar) = some (sorted.map .scalar) ∧
      sorted.Perm keys := by
  induction keys using List.reverseRecOn with
  | nil => exact ⟨[], rfl, .refl _⟩
  | append_singleton keys key ih =>
      rcases hordered with hshort | ⟨kind, hkinds⟩
      · have hnil : keys = [] := by
          rw [List.length_append, List.length_singleton] at hshort
          exact List.length_eq_zero_iff.mp (by omega)
        subst hnil
        exact ⟨[key], rfl, .refl _⟩
      · rw [List.forall_mem_append, List.forall_mem_singleton] at hkinds
        obtain ⟨sorted, hsorted, hperm⟩ := ih (.inr ⟨kind, hkinds.1⟩)
        have hmem : ∀ k ∈ sorted, k.orderKind? = some kind :=
          fun k hk => hkinds.1 k (hperm.mem_iff.mp hk)
        obtain ⟨longer, hlonger, hperm'⟩ := exists_insertKey? hkinds.2 hmem
        refine ⟨longer, ?_, ?_⟩
        · rw [List.map_append, List.map_singleton, sortKeys?_append_singleton, hsorted,
            Option.bind_some, hlonger]
        · exact hperm'.trans ((hperm.cons key).trans (List.perm_append_singleton key keys).symm)

theorem areOrdered_of_sortKeys? {keys : List Scalar} {sorted : List Document}
    (hsort : sortKeys? (keys.map .scalar) = some sorted) : AreOrdered keys := by
  induction keys using List.reverseRecOn generalizing sorted with
  | nil => exact .inl (Nat.zero_le 1)
  | append_singleton keys key ih =>
      rw [List.map_append, List.map_singleton, sortKeys?_append_singleton,
        Option.bind_eq_some_iff] at hsort
      obtain ⟨found, hfound, hinsert⟩ := hsort
      have hordered := ih hfound
      obtain ⟨earlier, hearlier, hperm⟩ := exists_sortKeys?_of_areOrdered hordered
      rw [hfound, Option.some.injEq] at hearlier
      subst hearlier
      cases earlier with
      | nil =>
          rw [hperm.symm.eq_nil]
          exact .inl (Nat.le_refl 1)
      | cons k rest =>
          -- The new key is compared with one of those before it, so it is of their kind.
          obtain ⟨kind, hkey, hk⟩ := exists_orderKind?_of_insertKey? hinsert
          have hmem : k ∈ keys := hperm.mem_iff.mp List.mem_cons_self
          refine .inr ⟨kind, List.forall_mem_append.mpr ⟨?_, List.forall_mem_singleton.mpr hkey⟩⟩
          rcases hordered with hshort | ⟨found, hkinds⟩
          · have hlength := hperm.length_eq
            rw [List.length_cons] at hlength
            have hrest : rest = [] := List.length_eq_zero_iff.mp (by omega)
            subst hrest
            intro other hother
            rw [List.mem_singleton.mp (hperm.mem_iff.mpr hother)]
            exact hk
          · rw [hkinds k hmem, Option.some.injEq] at hk
            exact hk ▸ hkinds

end Document
end ActorManifest
