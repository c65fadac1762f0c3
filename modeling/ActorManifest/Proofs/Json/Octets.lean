import ActorManifest.Proofs.Json.Ascii
import ActorManifest.Proofs.Json.Sorted
import ActorManifest.Text.Utf8

/-!
# Canonical forms as octets

A canonical form holds no lone surrogate, since even those of its texts would be escapes.  So
it has octets, and another canonical form has other octets.
-/

namespace ActorManifest

/-! ## Texts without lone surrogates -/

namespace Text

@[simp] theorem hasSurrogate_nil : hasSurrogate [] = false := rfl

theorem hasSurrogate_cons (c : CodePoint) (t : Text) :
    hasSurrogate (c :: t) = (c.toChar?.isNone || t.hasSurrogate) :=
  List.any_cons

theorem hasSurrogate_append (s t : Text) :
    (s ++ t).hasSurrogate = (s.hasSurrogate || t.hasSurrogate) :=
  List.any_append

theorem hasSurrogate_cons_char (c : Char) (t : Text) :
    hasSurrogate (.char c :: t) = t.hasSurrogate := rfl

theorem hasSurrogate_flatMap_eq_false
    {α : Type} {list : List α} {f : α → Text} (hf : ∀ a ∈ list, (f a).hasSurrogate = false) :
    hasSurrogate (list.flatMap f) = false := by
  rw [hasSurrogate, List.any_flatMap]
  exact List.any_eq_false.mpr fun a ha => Bool.not_eq_true _ ▸ hf a ha

theorem hasSurrogate_ofChars (cs : List Char) : (ofChars cs).hasSurrogate = false := by
  rw [hasSurrogate, ofChars, List.any_map]
  exact List.any_eq_false.mpr fun c _ => Bool.false_ne_true

@[simp] theorem hasSurrogate_ofString (s : String) : (ofString s).hasSurrogate = false :=
  hasSurrogate_ofChars s.toList

@[simp] theorem hasSurrogate_concat (pieces : List Text) :
    (concat pieces).hasSurrogate = pieces.any hasSurrogate :=
  List.any_flatten

theorem hasSurrogate_ofInt (n : Int) : (ofInt n).hasSurrogate = false :=
  (isAscii_ofInt n).hasSurrogate

theorem exists_ofChars_of_hasSurrogate {t : Text} (ht : t.hasSurrogate = false) :
    ∃ cs, t = ofChars cs := by
  induction t with
  | nil => exact ⟨[], rfl⟩
  | cons c t ih =>
      cases c with
      | surrogate offset => cases ht
      | char c =>
          obtain ⟨cs, rfl⟩ := ih ht
          exact ⟨c :: cs, rfl⟩

theorem toChars?_ofChars (cs : List Char) : (ofChars cs).toChars? = some cs := by
  rw [toChars?, ofChars, List.mapM_map]
  induction cs with
  | nil => rfl
  | cons c cs ih => simp [List.mapM_cons, ih]

end Text

/-! ## Octets of a text -/

namespace Utf8

open Text

theorem encode?_ofChars (cs : List Char) :
    encode? (ofChars cs) = some (cs.flatMap encodeChar) := by
  rw [encode?, toChars?_ofChars, Option.map_some]

theorem flatMap_encodeChar_inj {cs ds : List Char} :
    cs.flatMap encodeChar = ds.flatMap encodeChar ↔ cs = ds := by
  have hoctets : ∀ cs : List Char,
      (String.ofList cs).toByteArray = (cs.flatMap encodeChar).toByteArray :=
    fun _ => String.toByteArray_ofList
  rw [← List.toByteArray_inj, ← hoctets, ← hoctets, String.toByteArray_inj, String.ofList_inj]

/-- Texts without lone surrogates have octets, which tell them apart. -/
theorem exists_encode?_inj
    {s t : Text} (hs : s.hasSurrogate = false) (ht : t.hasSurrogate = false) :
    ∃ x y, encode? s = some x ∧ encode? t = some y ∧ (x = y ↔ s = t) := by
  obtain ⟨cs, rfl⟩ := exists_ofChars_of_hasSurrogate hs
  obtain ⟨ds, rfl⟩ := exists_ofChars_of_hasSurrogate ht
  refine ⟨_, _, encode?_ofChars cs, encode?_ofChars ds, ?_⟩
  rw [flatMap_encodeChar_inj, ofChars, ofChars, List.map_inj_right fun _ _ => CodePoint.char.inj]

end Utf8

/-! ## Canonical forms -/

namespace Json

open Text

theorem hasSurrogate_textLiteral (t : Text) : (textLiteral t).hasSurrogate = false :=
  (isAscii_textLiteral t).hasSurrogate

theorem hasSurrogate_writeField
    {write : Json → Text} {field : Text × Json} (hvalue : (write field.2).hasSurrogate = false) :
    (writeField write [] field).hasSurrogate = false := by
  rw [writeField, hasSurrogate_append, hasSurrogate_textLiteral, hasSurrogate_cons_char]
  exact hvalue

/-- What is laid out without blanks holds no lone surrogate. -/
theorem hasSurrogate_compact {depth : Nat} {j : Json} (htidy : IsTidy depth j) :
    j.compact.hasSurrogate = false := by
  induction htidy with
  | null => rfl
  | bool b => cases b <;> rfl
  | int hn => exact hasSurrogate_ofInt _
  | text t => exact hasSurrogate_textLiteral t
  | @array depth items hitems ih =>
      cases items with
      | nil => rfl
      | cons item items =>
          have hfirst := ih item List.mem_cons_self
          have hothers : hasSurrogate (items.flatMap fun j => .char ',' :: compact j) = false :=
            hasSurrogate_flatMap_eq_false fun j hj => ih j (List.mem_cons_of_mem item hj)
          rw [compact_array_cons, hasSurrogate_cons_char, hasSurrogate_append,
            hasSurrogate_append, hfirst, hothers]
          rfl
  | @object depth fields hdistinct hvalues ih =>
      cases fields with
      | nil => rfl
      | cons field fields =>
          have hfirst := hasSurrogate_writeField (ih field List.mem_cons_self)
          have hothers :
              hasSurrogate (fields.flatMap fun f => .char ',' :: writeField compact [] f) = false :=
            hasSurrogate_flatMap_eq_false fun f hf =>
              hasSurrogate_writeField (ih f (List.mem_cons_of_mem field hf))
          rw [compact_object_cons, hasSurrogate_cons_char, hasSurrogate_append,
            hasSurrogate_append, hfirst, hothers]
          rfl

end Json

end ActorManifest
