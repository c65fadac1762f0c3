import ActorManifest.Proofs.Reason.Words
import ActorManifest.Proofs.Unicode.Ascii

/-!
# Letters of a reason

A canonical form is made of the words of its text, and words only change their case.  So all
letters and digits of an ASCII text are still there, in their order, and nothing else is.
-/

namespace ActorManifest
namespace Reason

open CodePoint Text

variable {w x : Text}

theorem isSeparator_of_lt {c : CodePoint} (hc : c.toNat < 128) :
    isSeparator c = !c.isAsciiAlphanum := by
  rw [isSeparator_eq, Unicode.isWordSign_of_lt hc]

theorem isAsciiAlphanum_of_mem_words (hx : ∀ c ∈ x, c.toNat < 128) (hw : w ∈ words x) :
    ∀ c ∈ w, c.isAsciiAlphanum = true := by
  intro c hc
  have hletter := List.mem_flatten_of_mem hw hc
  rw [flatten_words] at hletter
  have hseparator := isSeparator_of_mem_words hw hc
  rw [isSeparator_of_lt (hx c (List.mem_of_mem_filter hletter))] at hseparator
  simpa using hseparator

/-- Capitalizing a word changes the case of its letters only. -/
theorem capitalize_letters (hw : ∀ c ∈ w, c.isAsciiAlphanum = true) :
    (∀ c ∈ capitalize w, c.isAsciiAlphanum = true) ∧
      (capitalize w).map (mapChar Char.toLower) = w.map (mapChar Char.toLower) := by
  cases w with
  | nil => exact ⟨by simp [capitalize], rfl⟩
  | cons c rest =>
      rw [List.forall_mem_cons] at hw
      have hc := lt_of_isAsciiAlphanum hw.1
      have hrest : ∀ d ∈ rest, d.toNat < 128 := fun d hd => lt_of_isAsciiAlphanum (hw.2 d hd)
      rw [capitalize_of_lt hc hrest, List.forall_mem_cons, List.forall_mem_map]
      refine ⟨⟨?_, fun d hd => ?_⟩, ?_⟩
      · rw [(isAsciiAlphanum_mapChar hc).2, hw.1]
      · rw [(isAsciiAlphanum_mapChar (hrest d hd)).1, hw.2 d hd]
      · simp only [List.map_cons, List.map_map, Function.comp_def, mapChar_toLower_toUpper,
          mapChar_toLower_toLower]

theorem isAsciiAlphanum_of_mem_canonical (hx : ∀ c ∈ x, c.toNat < 128) :
    ∀ c ∈ canonical x, c.isAsciiAlphanum = true := by
  intro c hc
  obtain ⟨w, hw, hmem⟩ := List.mem_flatMap.mp hc
  exact (capitalize_letters (isAsciiAlphanum_of_mem_words hx hw)).1 c hmem

theorem map_flatMap_capitalize {ws : List Text}
    (hws : ∀ w ∈ ws, ∀ c ∈ w, c.isAsciiAlphanum = true) :
    (ws.flatMap capitalize).map (mapChar Char.toLower) =
      ws.flatten.map (mapChar Char.toLower) := by
  induction ws with
  | nil => rfl
  | cons w ws ih =>
      rw [List.forall_mem_cons] at hws
      rw [List.flatMap_cons, List.map_append, (capitalize_letters hws.1).2, ih hws.2,
        List.flatten_cons, List.map_append]

/-- The letters and digits of an ASCII text are kept in their order. -/
theorem lower_canonical (hx : ∀ c ∈ x, c.toNat < 128) :
    lower (canonical x) = (lower x).filter isAsciiAlphanum := by
  have hcanonical : ∀ c ∈ canonical x, c.toNat < 128 := fun c hc =>
    lt_of_isAsciiAlphanum (isAsciiAlphanum_of_mem_canonical hx c hc)
  have hkept : x.filter (fun c => !isSeparator c) =
      x.filter (isAsciiAlphanum ∘ mapChar Char.toLower) := by
    refine List.filter_congr fun c hc => ?_
    rw [isSeparator_of_lt (hx c hc), Bool.not_not, Function.comp_apply,
      (isAsciiAlphanum_mapChar (hx c hc)).1]
  calc
    lower (canonical x) = (canonical x).map (mapChar Char.toLower) :=
      lowerAfter_of_lt [] hcanonical
    _ = (words x).flatten.map (mapChar Char.toLower) :=
      map_flatMap_capitalize fun w hw => isAsciiAlphanum_of_mem_words hx hw
    _ = (x.filter (isAsciiAlphanum ∘ mapChar Char.toLower)).map (mapChar Char.toLower) := by
      rw [flatten_words, hkept]
    _ = (x.map (mapChar Char.toLower)).filter isAsciiAlphanum := List.filter_map.symm
    _ = (lower x).filter isAsciiAlphanum := by
      rw [lower, lowerAfter_of_lt [] hx]

/-- Separators only separate, and nothing else is lost. -/
theorem canonical_append_and_letters :
    (∀ a s b : Text, s ≠ [] → (∀ c ∈ s, isSeparator c = true) →
      canonical (a ++ s ++ b) = canonical a ++ canonical b) ∧
    ∀ x : Text, (∀ c ∈ x, c.toNat < 128) →
      (∀ c ∈ canonical x, c.isAsciiAlphanum = true) ∧
        lower (canonical x) = (lower x).filter isAsciiAlphanum :=
  ⟨fun a _ b => canonical_append_append a b, fun _ hx =>
    ⟨isAsciiAlphanum_of_mem_canonical hx, lower_canonical hx⟩⟩

/-- An underscore and a blank are lost, and so are a full stop and a hyphen. -/
theorem canonical_append_and_letters_sample :
    (ofString " _" ≠ [] ∧ (∀ c ∈ ofString " _", isSeparator c = true) ∧
        canonical (ofString "échec" ++ ofString " _" ++ ofString "réseau") =
          canonical "échec" ++ canonical "réseau") ∧
      (∀ c ∈ ofString "HTTP/1.1 read-only", c.toNat < 128) ∧
      lower (canonical "HTTP/1.1 read-only") = "http11readonly" := by
  have hgap : ∀ c ∈ ofString " _", isSeparator c = true := by decide +kernel
  have hascii : ∀ c ∈ ofString "HTTP/1.1 read-only", c.toNat < 128 := by decide +kernel
  have hletters := canonical_append_and_letters
  refine ⟨⟨by decide, hgap, hletters.1 _ _ _ (by decide) hgap⟩, hascii, ?_⟩
  rw [(hletters.2 _ hascii).2]
  decide +kernel

end Reason
end ActorManifest
