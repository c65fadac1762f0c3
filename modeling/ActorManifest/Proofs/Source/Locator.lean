import ActorManifest.Source.Locator

/-!
# Locators as text

A cut at a separator gives the part before its first occurrence and the part after it, and
these two with the separator between them are the text that was cut.  So the text of the
locator that a text names is that text again.  A locator is named by its own text if and only
if the separators that end its first two parts do not occur inside them; the path may hold
both separators, and any part may be empty.
-/

namespace ActorManifest

/-! ## Cuts at a separator -/

namespace Text

variable {separator : CodePoint}

theorem cutAt?_eq_none_iff {t : Text} : cutAt? separator t = none ↔ separator ∉ t := by
  induction t with
  | nil => simp [cutAt?]
  | cons c rest ih =>
      by_cases hc : c = separator
      · simp [cutAt?, hc]
      · simp [cutAt?, hc, ih, Ne.symm hc]

/-- The first separator is the one behind a part without it. -/
theorem cutAt?_append_cons {before : Text} (after : Text) (hmem : separator ∉ before) :
    cutAt? separator (before ++ separator :: after) = some (before, after) := by
  induction before with
  | nil => simp [cutAt?]
  | cons c before ih =>
      rw [List.mem_cons, not_or] at hmem
      simp [cutAt?, Ne.symm hmem.1, ih hmem.2]

/-- The part before a cut lacks the separator, and nothing else is lost. -/
theorem cutAt?_eq_some_iff {t before after : Text} :
    cutAt? separator t = some (before, after) ↔
      separator ∉ before ∧ t = before ++ separator :: after := by
  constructor
  · intro hcut
    induction t generalizing before with
    | nil => simp [cutAt?] at hcut
    | cons c rest ih =>
        by_cases hc : c = separator
        · simp only [cutAt?, if_pos hc, Option.some.injEq, Prod.mk.injEq] at hcut
          obtain ⟨rfl, rfl⟩ := hcut
          simp [hc]
        · simp only [cutAt?, if_neg hc, Option.map_eq_some_iff, Prod.exists,
            Prod.mk.injEq] at hcut
          obtain ⟨before, after, hrest, rfl, rfl⟩ := hcut
          obtain ⟨hmem, rfl⟩ := ih hrest
          exact ⟨by simp [Ne.symm hc, hmem], rfl⟩
  · rintro ⟨hmem, rfl⟩
    exact cutAt?_append_cons after hmem

end Text

/-! ## Locators -/

namespace Locator

open Text

theorem text_of_reference (repository reference : Text) :
    text ⟨repository, some reference, none⟩ = repository ++ .char '#' :: reference := by
  simp [text, Text.concat, Text.ofString]

theorem text_of_path (repository reference path : Text) :
    text ⟨repository, some reference, some path⟩ =
      repository ++ .char '#' :: (reference ++ .char ':' :: path) := by
  simp [text, Text.concat, Text.ofString]

/-- The text of the named locator is the text that named it. -/
theorem text_ofText (t : Text) : (ofText t).text = t := by
  unfold ofText
  cases hrepository : cutAt? (.char '#') t with
  | none => rfl
  | some parts =>
      obtain ⟨repository, fragment⟩ := parts
      obtain ⟨-, rfl⟩ := cutAt?_eq_some_iff.mp hrepository
      dsimp only
      cases hreference : cutAt? (.char ':') fragment with
      | none => exact text_of_reference repository fragment
      | some parts =>
          obtain ⟨reference, path⟩ := parts
          obtain ⟨-, rfl⟩ := cutAt?_eq_some_iff.mp hreference
          exact text_of_path repository reference path

/-- The repository that a text names lacks the separator behind it. -/
theorem not_mem_repository_ofText (t : Text) : .char '#' ∉ (ofText t).repository := by
  unfold ofText
  cases hrepository : cutAt? (.char '#') t with
  | none => exact cutAt?_eq_none_iff.mp hrepository
  | some parts =>
      obtain ⟨repository, fragment⟩ := parts
      have hmem := (cutAt?_eq_some_iff.mp hrepository).1
      dsimp only
      cases cutAt? (.char ':') fragment with
      | none => exact hmem
      | some _ => exact hmem

/-- The reference that a text names lacks the separator behind it. -/
theorem not_mem_reference_ofText (t : Text) :
    ∀ reference ∈ (ofText t).reference, .char ':' ∉ reference := by
  unfold ofText
  cases cutAt? (.char '#') t with
  | none => simp
  | some parts =>
      obtain ⟨repository, fragment⟩ := parts
      dsimp only
      cases hreference : cutAt? (.char ':') fragment with
      | none => simpa using cutAt?_eq_none_iff.mp hreference
      | some parts =>
          obtain ⟨reference, path⟩ := parts
          simpa using (cutAt?_eq_some_iff.mp hreference).1

/-- A repository alone is named by a text without the first separator. -/
theorem ofText_of_not_mem {repository : Text} (hrepository : .char '#' ∉ repository) :
    ofText repository = ⟨repository, none, none⟩ := by
  have hcut := cutAt?_eq_none_iff.mpr hrepository
  simp only [ofText, hcut]

/-- The parts are found again if neither of the first two holds the separator behind it. -/
theorem ofText_text_of_not_mem
    {repository reference : Text} (path : Option Text)
    (hrepository : .char '#' ∉ repository) (hreference : .char ':' ∉ reference) :
    ofText (text ⟨repository, some reference, path⟩) = ⟨repository, some reference, path⟩ := by
  cases path with
  | none =>
      have hfirst := cutAt?_append_cons reference hrepository
      have hsecond := cutAt?_eq_none_iff.mpr hreference
      rw [text_of_reference]
      simp only [ofText, hfirst, hsecond]
  | some path =>
      have hfirst := cutAt?_append_cons (reference ++ .char ':' :: path) hrepository
      have hsecond := cutAt?_append_cons path hreference
      rw [text_of_path]
      simp only [ofText, hfirst, hsecond]

/-- Locators are encoded exactly.  Every text is the text of the locator that it names.  A
locator with a reference is named by its own text if and only if its repository lacks the first
separator and its reference the second, whatever its path is; a repository alone, if and only if
it lacks the first separator. -/
theorem text_ofText_and_ofText_text_iff :
    (∀ t, (ofText t).text = t) ∧
      (∀ repository reference path,
        ofText (text ⟨repository, some reference, path⟩) =
            ⟨repository, some reference, path⟩ ↔
          .char '#' ∉ repository ∧ .char ':' ∉ reference) ∧
      ∀ repository, ofText (text ⟨repository, none, none⟩) = ⟨repository, none, none⟩ ↔
        .char '#' ∉ repository := by
  refine ⟨text_ofText, ?_, ?_⟩
  · intro repository reference path
    constructor
    · intro hfound
      have hrepository := not_mem_repository_ofText (text ⟨repository, some reference, path⟩)
      have hreference := not_mem_reference_ofText (text ⟨repository, some reference, path⟩)
      rw [hfound] at hrepository hreference
      exact ⟨hrepository, hreference reference rfl⟩
    · rintro ⟨hrepository, hreference⟩
      exact ofText_text_of_not_mem path hrepository hreference
  · intro repository
    constructor
    · intro hfound
      have hrepository := not_mem_repository_ofText (text ⟨repository, none, none⟩)
      rwa [hfound] at hrepository
    · exact ofText_of_not_mem

end Locator
end ActorManifest
