import Mathlib.Data.List.Basic
import Mathlib.Data.List.Forall2

/-!
# Outcomes

What a step may lead to: a result of some kind, or an error of some kind.  Steps that are taken
one after another lead to what the last of them does, or to an error of one of them.  Steps of
two runs agree if both give an error or both give results that are related.
-/

namespace ActorManifest

/-! ## Results of steps -/

/-- Two steps succeed if the first does and the second does on what it gave. -/
theorem bind_eq_ok_iff
    {ε α β : Type} {first : Except ε α} {second : α → Except ε β} {b : β} :
    (first >>= second) = .ok b ↔ ∃ a, first = .ok a ∧ second a = .ok b := by
  cases first with
  | error e => simp [bind, Except.bind]
  | ok a => simp [bind, Except.bind]

theorem map_eq_ok_iff
    {ε α β : Type} {first : Except ε α} {f : α → β} {b : β} :
    first.map f = .ok b ↔ ∃ a, first = .ok a ∧ f a = b := by
  cases first with
  | error e => simp [Except.map]
  | ok a => simp [Except.map]

theorem mapError_eq_ok_iff
    {ε δ α : Type} {outcome : Except ε α} {f : ε → δ} {a : α} :
    outcome.mapError f = .ok a ↔ outcome = .ok a := by
  cases outcome with
  | error e => simp [Except.mapError]
  | ok found => simp [Except.mapError]

/-- Steps for the items of a list succeed if each of them does. -/
theorem exists_mapM {ε α β : Type} {f : α → Except ε β} {items : List α}
    (hitems : ∀ item ∈ items, ∃ b, f item = .ok b) : ∃ results, items.mapM f = .ok results := by
  induction items with
  | nil => exact ⟨[], rfl⟩
  | cons item rest ih =>
      obtain ⟨⟨b, hb⟩, hrest⟩ := List.forall_mem_cons.mp hitems
      obtain ⟨results, hresults⟩ := ih hrest
      exact ⟨b :: results, by rw [List.mapM_cons, hb, hresults]; rfl⟩

theorem mapM_congr {ε α β : Type} {f g : α → Except ε β} {items : List α}
    (hsame : ∀ item ∈ items, f item = g item) : items.mapM f = items.mapM g := by
  induction items with
  | nil => rfl
  | cons item rest ih =>
      obtain ⟨hitem, hrest⟩ := List.forall_mem_cons.mp hsame
      rw [List.mapM_cons, List.mapM_cons, hitem, ih hrest]

/-! ## Results or errors -/

/-- The outcome is a good result or an expected error. -/
inductive Yields {ε α : Type} (good : α → Prop) (expected : ε → Prop) : Except ε α → Prop
  | done {a : α} (hgood : good a) : Yields good expected (.ok a)
  | flawed {error : ε} (hexpected : expected error) : Yields good expected (.error error)

namespace Yields

variable {ε φ α β : Type} {good : α → Prop} {next : β → Prop} {expected : ε → Prop}
  {allowed : φ → Prop} {outcome : Except ε α}

theorem bind {f : α → Except ε β} (hfirst : Yields good expected outcome)
    (hsecond : ∀ a, good a → Yields next expected (f a)) :
    Yields next expected (outcome >>= f) := by
  cases hfirst with
  | done hgood => exact hsecond _ hgood
  | flawed hexpected => exact .flawed hexpected

theorem map {f : α → β} (hyields : Yields good expected outcome)
    (hgood : ∀ a, good a → next (f a)) : Yields next expected (outcome.map f) := by
  cases hyields with
  | done ha => exact .done (hgood _ ha)
  | flawed hexpected => exact .flawed hexpected

theorem mapError {f : ε → φ} (hyields : Yields good expected outcome)
    (herror : ∀ e, expected e → allowed (f e)) : Yields good allowed (outcome.mapError f) := by
  cases hyields with
  | done ha => exact .done ha
  | flawed hexpected => exact .flawed (herror _ hexpected)

theorem foldlM {f : α → β → Except ε α} {items : List β} {a : α} (hgood : good a)
    (hstep : ∀ a, good a → ∀ item ∈ items, Yields good expected (f a item)) :
    Yields good expected (items.foldlM f a) := by
  induction items generalizing a with
  | nil => exact .done hgood
  | cons item rest ih =>
      rw [List.foldlM_cons]
      refine (hstep a hgood item List.mem_cons_self).bind fun b hb => ih hb ?_
      intro c hc other hother
      exact hstep c hc other (List.mem_cons_of_mem _ hother)

end Yields

/-- What can be said of a step after another one, given what is said of each of them, can be
said of steps that are taken for the items of a list. -/
theorem forall_mapM {m : Type → Type} [Monad m] [LawfulMonad m] {α β : Type}
    (holds : ∀ {γ : Type}, (γ → Prop) → m γ → Prop)
    (hpure : ∀ {γ : Type} {p : γ → Prop} {c : γ}, p c → holds p (pure c))
    (hbind : ∀ {γ δ : Type} {p : γ → Prop} {q : δ → Prop} {step : m γ} {f : γ → m δ},
      holds p step → (∀ c, p c → holds q (f c)) → holds q (step >>= f))
    {p : α → Prop} {f : β → m α} {items : List β} (hitems : ∀ item ∈ items, holds p (f item)) :
    holds (fun done : List α => ∀ a ∈ done, p a) (items.mapM f) := by
  induction items with
  | nil => exact hpure (List.forall_mem_nil p)
  | cons item rest ih =>
      obtain ⟨hitem, hrest⟩ := List.forall_mem_cons.mp hitems
      rw [List.mapM_cons]
      refine hbind hitem fun a ha => hbind (ih hrest) fun others hothers => hpure ?_
      exact List.forall_mem_cons.mpr ⟨ha, hothers⟩

/-! ## Outcomes that agree -/

/-- Both outcomes are errors, or both are results, and these are related. -/
inductive Agree {ε α : Type} (related : α → α → Prop) : Except ε α → Except ε α → Prop
  | done {a b : α} (hrelated : related a b) : Agree related (.ok a) (.ok b)
  | failed (e f : ε) : Agree related (.error e) (.error f)

namespace Agree

variable {ε α β : Type} {related : α → α → Prop} {next : β → β → Prop}
  {first second third : Except ε α}

theorem refl (hrefl : ∀ a, related a a) (outcome : Except ε α) : Agree related outcome outcome := by
  cases outcome with
  | error e => exact .failed e e
  | ok a => exact .done (hrefl a)

theorem symm (hsymm : ∀ {a b}, related a b → related b a) (hagree : Agree related first second) :
    Agree related second first := by
  cases hagree with
  | failed e f => exact .failed f e
  | done hrelated => exact .done (hsymm hrelated)

theorem trans
    (htrans : ∀ {a b c}, related a b → related b c → related a c)
    (hagree : Agree related first second) (hnext : Agree related second third) :
    Agree related first third := by
  cases hagree with
  | failed e f =>
      cases hnext with
      | failed _ g => exact .failed e g
  | done hrelated =>
      cases hnext with
      | done hrelated' => exact .done (htrans hrelated hrelated')

theorem bind {f g : α → Except ε β} (hagree : Agree related first second)
    (hnext : ∀ a b, related a b → Agree next (f a) (g b)) :
    Agree next (first >>= f) (second >>= g) := by
  cases hagree with
  | failed e f => exact .failed e f
  | done hrelated => exact hnext _ _ hrelated

theorem map {f g : α → β} (hagree : Agree related first second)
    (hnext : ∀ a b, first = .ok a → second = .ok b → related a b → next (f a) (g b)) :
    Agree next (first.map f) (second.map g) := by
  cases hagree with
  | failed e f => exact .failed e f
  | done hrelated => exact .done (hnext _ _ rfl rfl hrelated)

/-- Items that lead to agreeing outcomes one by one do so together. -/
theorem mapM {f : β → Except ε α} {items others : List β}
    (hitems : List.Forall₂ (fun item other => Agree (· = ·) (f item) (f other)) items others) :
    Agree (· = ·) (items.mapM f) (others.mapM f) := by
  induction hitems with
  | nil => exact .done rfl
  | cons hitem _ ih =>
      rw [List.mapM_cons, List.mapM_cons]
      refine hitem.bind ?_
      rintro a _ rfl
      refine ih.bind ?_
      rintro rest _ rfl
      exact .done rfl

/-- Steps that are taken in another order give the same results in another order, or fail on
another item. -/
theorem mapM_of_perm (f : β → Except ε α) {items others : List β} (hperm : items.Perm others) :
    Agree List.Perm (items.mapM f) (others.mapM f) := by
  induction hperm with
  | nil => exact .done (.refl _)
  | cons item _ ih =>
      rw [List.mapM_cons, List.mapM_cons]
      refine (Agree.refl (fun _ => rfl) (f item)).bind ?_
      rintro a _ rfl
      exact ih.bind fun rest rest' hrest => .done (hrest.cons a)
  | swap item other rest =>
      simp only [List.mapM_cons]
      cases f item with
      | error e => cases f other <;> exact .failed _ _
      | ok a =>
          cases f other with
          | error e => exact .failed _ _
          | ok b =>
              cases rest.mapM f with
              | error e => exact .failed _ _
              | ok results => exact .done (.swap a b results)
  | trans _ _ ih ih' => exact ih.trans List.Perm.trans ih'

end Agree

end ActorManifest
