import ActorManifest.Proofs.Json.Layout
import ActorManifest.Proofs.Yaml.Numerals
import ActorManifest.Proofs.Yaml.Scalars

/-!
# Cutting what is written in blocks

The writer and the lexer agree on where block collections begin and end: a value is cut into its
tokens wherever it is written, and each collection ends in front of the next line that is further
to the left.  Only a key that stands before its colon on one line may go wrong, since the lexer
counts the signs of its written form and the writer the code points of the key.
-/

namespace ActorManifest

open Yaml

/-! ## Keys -/

namespace Yaml
namespace Writer

/-- If the key stands before its colon on one line, then its written form is not too long. -/
def IsShortKey (t : Text) : Prop :=
  isSimpleKey t = true → (keyText t).length ≤ Lexer.maxKeyLength

instance (t : Text) : Decidable (IsShortKey t) :=
  inferInstanceAs (Decidable (isSimpleKey t = true → (keyText t).length ≤ Lexer.maxKeyLength))

/-- A code point has at most ten signs, so a key of few code points is short. -/
theorem isShortKey_of_length_le {t : Text} (ht : t.length ≤ 102) : IsShortKey t := by
  intro hkey
  have hlength := (isVisible_keyText (isFeed_of_isSimpleKey hkey)).2
  rw [Lexer.maxKeyLength]
  omega

end Writer
end Yaml

namespace Json

mutual

/-- The names of the fields in a value. -/
def keys : Json → List Text
  | .array items => keysOfItems items
  | .object fields => keysOfFields fields
  | _ => []

/-- The names of the fields in the items of an array. -/
def keysOfItems : List Json → List Text
  | [] => []
  | item :: items => item.keys ++ keysOfItems items

/-- The names of the fields of an object, and of those in their values. -/
def keysOfFields : List (Text × Json) → List Text
  | [] => []
  | (name, value) :: fields => name :: value.keys ++ keysOfFields fields

end

/-- All names in the value are short keys. -/
def HasShortKeys (j : Json) : Prop :=
  ∀ name ∈ j.keys, Writer.IsShortKey name

instance (j : Json) : Decidable j.HasShortKeys :=
  inferInstanceAs (Decidable (∀ name ∈ j.keys, Writer.IsShortKey name))

theorem keysOfItems_eq_flatMap (items : List Json) :
    keysOfItems items = items.flatMap keys := by
  induction items with
  | nil => rfl
  | cons item items ih => rw [keysOfItems, ih, List.flatMap_cons]

theorem keysOfFields_eq_flatMap (fields : List (Text × Json)) :
    keysOfFields fields = fields.flatMap fun field => field.1 :: field.2.keys := by
  induction fields with
  | nil => rfl
  | cons field fields ih => rw [keysOfFields, ih, List.flatMap_cons]

theorem hasShortKeys_array_iff {items : List Json} :
    (array items).HasShortKeys ↔ ∀ item ∈ items, item.HasShortKeys := by
  simp only [HasShortKeys, keys, keysOfItems_eq_flatMap, List.forall_mem_flatMap]

theorem hasShortKeys_object_iff {fields : List (Text × Json)} :
    (object fields).HasShortKeys ↔
      ∀ field ∈ fields, Writer.IsShortKey field.1 ∧ field.2.HasShortKeys := by
  simp only [HasShortKeys, keys, keysOfFields_eq_flatMap, List.forall_mem_flatMap,
    List.forall_mem_cons]

end Json

namespace Yaml

/-! ## Tokens of values -/

mutual

/-- The tokens of a value.  A sequence that is the value of a key on the same line begins in the
column of the key, and then its start and its end have no tokens. -/
def valueTokens (indentless : Bool) : Json → List Token
  | .null => [.scalar true "null"]
  | .bool true => [.scalar true "true"]
  | .bool false => [.scalar true "false"]
  | .int n => [.scalar true (Text.ofInt n)]
  | .float x => [.scalar true (Writer.floatText x)]
  | .text t => [.scalar (Writer.allowsPlain t) t]
  | .array [] => [.flowSequenceStart, .flowSequenceEnd]
  | .object [] => [.flowMappingStart, .flowMappingEnd]
  | .array (item :: items) =>
    let entries := .blockEntry :: (valueTokens false item ++ itemTokens items)
    if indentless then entries else .blockSequenceStart :: (entries ++ [.blockEnd])
  | .object (field :: fields) =>
    .blockMappingStart :: (fieldTokens (field :: fields) ++ [.blockEnd])

/-- The tokens of the items of a sequence. -/
def itemTokens : List Json → List Token
  | [] => []
  | item :: items => .blockEntry :: (valueTokens false item ++ itemTokens items)

/-- The tokens of the entries of a mapping. -/
def fieldTokens : List (Text × Json) → List Token
  | [] => []
  | (name, value) :: fields =>
    .key :: .scalar (Writer.allowsPlain name) name :: .value ::
      (valueTokens (Writer.isSimpleKey name) value ++ fieldTokens fields)

end

/-! ## Ends of lines -/

open Writer

variable {m column depth : Nat} {indent : Int} {outer after : List Int} {tail : Text}
  {tokens added : List Token} {j : Json}

/-- A deeper collection ends with the line. -/
theorem EndsLine.close {deeper : Nat} (hends : EndsLine m outer tail tokens) (hm : m < deeper) :
    EndsLine deeper (m :: outer) tail (.blockEnd :: tokens) := by
  obtain ⟨n, r, rfl, hn, hr, hyields⟩ := hends
  refine ⟨n, r, rfl, by omega, hr, Place.yields_close hyields hr ?_⟩
  exact Int.ofNat_lt.mpr (Nat.lt_of_le_of_lt hn hm)

/-! ## Values -/

/-- Inside of a block collection that stands at `m`, the value is cut into its tokens, behind a
mark as well as behind the colon of a key. -/
structure IsCut (m : Nat) (j : Json) : Prop where
  dash (outer : List Int) (tail : Text) (tokens : List Token) :
    EndsLine m outer tail tokens → ∃ r, afterDash m j = .char ' ' :: r ∧ AtToken (r ++ tail) ∧
      Place.Yields ⟨r ++ tail, m + 2, m, outer, true⟩ (valueTokens false j ++ tokens)
  colon (column : Nat) (outer : List Int) (tail : Text) (tokens : List Token) :
    m ≤ column → EndsLine m outer tail tokens → Yaml.atGap (afterColon m column j ++ tail) = true ∧
      Place.Yields ⟨afterColon m column j ++ tail, column, m, outer, false⟩
        (valueTokens true j ++ tokens)

theorem after_of_leaf? {w : Text} (hleaf : leaf? (m + 2) (column + 1) j = some w) :
    afterColon m column j = .char ' ' :: w ∧
      (column + 1 = m + 2 → afterDash m j = .char ' ' :: w) := by
  cases j with
  | array items =>
      cases items with
      | nil => cases hleaf; exact ⟨rfl, fun _ => rfl⟩
      | cons => cases hleaf
  | object fields =>
      cases fields with
      | nil => cases hleaf; exact ⟨rfl, fun _ => rfl⟩
      | cons => cases hleaf
  | _ =>
      refine ⟨by simp only [afterColon, hleaf, Option.getD_some], fun hcolumn => ?_⟩
      rw [hcolumn] at hleaf
      simp only [afterDash, hleaf, Option.getD_some]

/-- A value without parts, or an empty collection. -/
theorem isCut_of_isLeaf
    (hleaf : ∀ column, ∃ w, leaf? (m + 2) column j = some w ∧ IsLeaf m w added)
    (htokens : ∀ indentless, valueTokens indentless j = added) : IsCut m j := by
  constructor
  · intro outer tail tokens htail
    obtain ⟨w, hw, hcut⟩ := hleaf (m + 1 + 1)
    obtain ⟨hat, hyields⟩ := hcut (m + 2) outer true tail tokens (by omega) htail
    rw [htokens]
    exact ⟨w, (after_of_leaf? hw).2 rfl, hat, hyields⟩
  · intro column outer tail tokens hcolumn htail
    obtain ⟨w, hw, hcut⟩ := hleaf (column + 1)
    obtain ⟨hat, hyields⟩ := hcut (column + 1) outer false tail tokens (by omega) htail
    rw [htokens, (after_of_leaf? hw).1]
    exact ⟨rfl, Place.yields_spaces (n := 1) hyields hat⟩

/-! ## Sequences -/

/-- An item behind its mark, which may open the sequence. -/
theorem yields_item
    (hopens : Opens .blockSequenceStart m indent outer after added) (hj : IsCut m j)
    (hends : EndsLine m after tail tokens) :
    AtToken (.char '-' :: (afterDash m j ++ tail)) ∧
      Place.Yields ⟨.char '-' :: (afterDash m j ++ tail), m, indent, outer, true⟩
        (added ++ .blockEntry :: (valueTokens false j ++ tokens)) := by
  obtain ⟨r, hr, hat, hyields⟩ := hj.dash after tail tokens hends
  rw [hr]
  exact ⟨Lexer.atToken_of_isMark .entry _, Place.yields_mark .entry hopens hat hyields⟩

/-- The items after the first, one after another. -/
theorem endsLine_moreItems
    {items : List Json} (hitems : ∀ j ∈ items, IsCut m j) (hends : EndsLine m outer tail tokens) :
    EndsLine m outer (moreItems m items ++ tail) (itemTokens items ++ tokens) := by
  induction items with
  | nil => exact hends
  | cons item items ih =>
      obtain ⟨hitem, hitems⟩ := List.forall_mem_cons.mp hitems
      obtain ⟨hat, hyields⟩ := yields_item (.goesOn outer) hitem (ih hitems)
      refine ⟨m, _, ?_, Nat.le_refl m, hat, ?_⟩
      · simp [moreItems, Text.concat, Text.ofString]
      · rw [itemTokens, List.cons_append, List.append_assoc]
        exact hyields

/-- A sequence from its first mark on. -/
theorem yields_items
    {items : List Json} (hopens : Opens .blockSequenceStart m indent outer after added)
    (hitems : ∀ item ∈ j :: items, IsCut m item) (hends : EndsLine m after tail tokens) :
    AtToken (.char '-' :: (afterDash m j ++ (moreItems m items ++ tail))) ∧
      Place.Yields ⟨.char '-' :: (afterDash m j ++ (moreItems m items ++ tail)), m, indent, outer,
        true⟩ (added ++ (itemTokens (j :: items) ++ tokens)) := by
  obtain ⟨hitem, hitems⟩ := List.forall_mem_cons.mp hitems
  rw [itemTokens, List.cons_append, List.append_assoc]
  exact yields_item hopens hitem (endsLine_moreItems hitems hends)

theorem isCut_array
    {item : Json} {items : List Json} (hsame : ∀ j ∈ item :: items, IsCut m j)
    (hdeeper : ∀ j ∈ item :: items, IsCut (m + 2) j) : IsCut m (.array (item :: items)) := by
  constructor
  · intro outer tail tokens hends
    -- Behind a mark the sequence stands two columns further right and opens its own block,
    -- which the end of the line closes.
    have hclosed := hends.close (show m < m + 2 by omega)
    have hopens : Opens .blockSequenceStart (m + 2) m outer (m :: outer) [.blockSequenceStart] :=
      .begins outer (Int.ofNat_lt.mpr (by omega))
    obtain ⟨hat, hyields⟩ := yields_items hopens hdeeper hclosed
    refine ⟨.char '-' :: (afterDash (m + 2) item ++ moreItems (m + 2) items), ?_, ?_, ?_⟩
    · simp [afterDash, Text.concat, Text.ofString]
    · simpa using hat
    · simpa [valueTokens, itemTokens] using hyields
  · intro column outer tail tokens _ hends
    -- Behind a colon it goes on in the column of the key, so nothing is opened or closed.
    obtain ⟨hat, hyields⟩ := yields_items (.goesOn outer) hsame hends
    have hline : Place.Yields ⟨newLine m ++ .char '-' :: (afterDash m item ++
        (moreItems m items ++ tail)), column, m, outer, false⟩ _ :=
      Place.yields_newLine hyields hat
    have hform : afterColon m column (.array (item :: items)) ++ tail =
        newLine m ++ .char '-' :: (afterDash m item ++ (moreItems m items ++ tail)) := by
      simp [afterColon, Text.concat, Text.ofString]
    rw [hform]
    refine ⟨rfl, ?_⟩
    simpa [valueTokens, itemTokens] using hline

/-! ## Mappings -/

theorem isLine_of_isVisible {w : Text} (hw : ∀ p ∈ w, IsVisible p) : Cursor.IsLine w := by
  intro p hp
  obtain ⟨hsimple, hfeed⟩ := hw p hp
  by_cases hspace : isSpace p = true
  · rw [beq_iff_eq.mp hspace]
    decide
  · refine ⟨(isSolid_of_isSimple hsimple (by simpa using hspace) hfeed).2, ?_⟩
    rintro rfl
    cases hsimple

/-- A key before its colon on one line, which may open the mapping. -/
theorem yields_simpleKey
    {name rest : Text} (hopens : Opens .blockMappingStart m indent outer after added)
    (hname : isSimpleKey name = true) (hshort : IsShortKey name) (hgap : Yaml.atGap rest = true)
    (hyields : Place.Yields ⟨rest, m + (keyText name).length + 1, m, after, false⟩ tokens) :
    AtToken (keyText name ++ .char ':' :: rest) ∧
      Place.Yields ⟨keyText name ++ .char ':' :: rest, m, indent, outer, true⟩
        (added ++ .key :: .scalar (allowsPlain name) name :: .value :: tokens) := by
  have hfeed := isFeed_of_isSimpleKey hname
  have hcolon : ∀ x ∈ (CodePoint.char ':' :: rest).head?, x = .char '\n' ∨ x = .char ':' := by
    rintro _ ⟨⟩
    exact .inr rfl
  -- In either style the key is a scalar that stops at the colon without crossing a line.
  have hscalar : Lexer.IsScalar indent (keyText name) (.char ':' :: rest) false
      (allowsPlain name) name 0 := by
    have hplain : EndsPlain (indent + 1) (.char ':' :: rest) false 0 := endsPlain_colon hgap
    have hcases := Lexer.isScalar_textFrom false 0 name Nat.one_pos (by decide) nofun hplain hcolon
    rw [textFrom_eq_keyText 1 0 hfeed] at hcases
    rcases hcases with ⟨hplain, hscalar⟩ | ⟨hplain, hscalar⟩
    · exact hplain ▸ hscalar
    · exact hplain ▸ hscalar
  exact ⟨hscalar.atToken, Place.yields_key hscalar hopens
    (isLine_of_isVisible (isVisible_keyText hfeed).1) (hshort hname) hgap hyields⟩

/-- A key behind its mark, which may open the mapping, and a value behind its mark on the next
line. -/
theorem yields_markedKey
    (name : Text) (hopens : Opens .blockMappingStart m indent outer after added)
    (hj : IsCut m j) (hm : m + 2 < width) (hends : EndsLine m after tail tokens) :
    AtToken (.char '?' :: .char ' ' :: (textFrom true (m + 2) (m + 2) name ++
        (newLine m ++ .char ':' :: (afterDash m j ++ tail)))) ∧
      Place.Yields ⟨.char '?' :: .char ' ' :: (textFrom true (m + 2) (m + 2) name ++
          (newLine m ++ .char ':' :: (afterDash m j ++ tail))), m, indent, outer, true⟩
        (added ++ .key :: .scalar (allowsPlain name) name :: .value ::
          (valueTokens false j ++ tokens)) := by
  -- From the end of the text to its front: the value, its mark, the line break, the key.
  obtain ⟨r, hr, hat, hyields⟩ := hj.dash after tail tokens hends
  have hvalue := Place.yields_mark .value (.goesOn after) hat hyields
  have hline : EndsLine m after (newLine m ++ .char ':' :: .char ' ' :: (r ++ tail))
      (.value :: (valueTokens false j ++ tokens)) :=
    ⟨m, _, rfl, Nat.le_refl m, Lexer.atToken_of_isMark .value _, hvalue⟩
  obtain ⟨hat', hkey⟩ := Lexer.isLeaf_textFrom (show m < m + 2 by omega) hm name
    (m + 2) after true _ _ (by omega) hline
  rw [hr]
  exact ⟨Lexer.atToken_of_isMark .key _, Place.yields_mark .key hopens hat' hkey⟩

/-- A field, which may open the mapping. -/
theorem yields_field
    {name : Text} (hopens : Opens .blockMappingStart m indent outer after added)
    (hname : IsShortKey name) (hj : IsCut m j) (hm : m + 2 < width)
    (hends : EndsLine m after tail tokens) :
    AtToken (firstField m (name, j) ++ tail) ∧
      Place.Yields ⟨firstField m (name, j) ++ tail, m, indent, outer, true⟩
        (added ++ .key :: .scalar (allowsPlain name) name :: .value ::
          (valueTokens (isSimpleKey name) j ++ tokens)) := by
  cases hkey : isSimpleKey name with
  | true =>
      have hform := textFrom_eq_keyText m m (isFeed_of_isSimpleKey hkey)
      obtain ⟨hgap, hyields⟩ := hj.colon (m + (keyText name).length + 1) after tail tokens
        (by omega) hends
      simpa [firstField, hkey, hform, Text.concat, Text.ofString] using
        yields_simpleKey hopens hkey hname hgap hyields
  | false =>
      simpa [firstField, hkey, Text.concat, Text.ofString] using
        yields_markedKey name hopens hj hm hends

/-- The fields after the first, one after another. -/
theorem endsLine_moreFields
    {fields : List (Text × Json)} (hnames : ∀ field ∈ fields, IsShortKey field.1)
    (hvalues : ∀ field ∈ fields, IsCut m field.2) (hm : m + 2 < width)
    (hends : EndsLine m outer tail tokens) :
    EndsLine m outer (moreFields m fields ++ tail) (fieldTokens fields ++ tokens) := by
  induction fields with
  | nil => exact hends
  | cons field fields ih =>
      obtain ⟨name, value⟩ := field
      obtain ⟨hname, hnames⟩ := List.forall_mem_cons.mp hnames
      obtain ⟨hvalue, hvalues⟩ := List.forall_mem_cons.mp hvalues
      obtain ⟨hat, hyields⟩ :=
        yields_field (.goesOn outer) hname hvalue hm (ih hnames hvalues)
      refine ⟨m, _, ?_, Nat.le_refl m, hat, ?_⟩
      · simp [moreFields]
      · simpa [fieldTokens] using hyields

/-- A mapping from its first key on. -/
theorem yields_fields
    {field : Text × Json} {fields : List (Text × Json)}
    (hopens : Opens .blockMappingStart m indent outer after added)
    (hnames : ∀ f ∈ field :: fields, IsShortKey f.1)
    (hvalues : ∀ f ∈ field :: fields, IsCut m f.2) (hm : m + 2 < width)
    (hends : EndsLine m after tail tokens) :
    AtToken (firstField m field ++ (moreFields m fields ++ tail)) ∧
      Place.Yields ⟨firstField m field ++ (moreFields m fields ++ tail), m, indent, outer, true⟩
        (added ++ (fieldTokens (field :: fields) ++ tokens)) := by
  obtain ⟨hname, hnames⟩ := List.forall_mem_cons.mp hnames
  obtain ⟨hvalue, hvalues⟩ := List.forall_mem_cons.mp hvalues
  have hrest := endsLine_moreFields hnames hvalues hm hends
  obtain ⟨hat, hyields⟩ := yields_field hopens hname hvalue hm hrest
  exact ⟨hat, by simpa [fieldTokens] using hyields⟩

theorem isCut_object
    {field : Text × Json} {fields : List (Text × Json)}
    (hnames : ∀ f ∈ field :: fields, IsShortKey f.1)
    (hvalues : ∀ f ∈ field :: fields, IsCut (m + 2) f.2) (hm : m + 4 < width) :
    IsCut m (.object (field :: fields)) := by
  -- Unlike a sequence, a mapping stands two columns further right in both places.
  have hcut : ∀ {outer tail tokens}, EndsLine m outer tail tokens →
      AtToken (firstField (m + 2) field ++ (moreFields (m + 2) fields ++ tail)) ∧
        Place.Yields ⟨firstField (m + 2) field ++ (moreFields (m + 2) fields ++ tail), m + 2, m,
          outer, true⟩ (valueTokens true (.object (field :: fields)) ++ tokens) := by
    intro outer tail tokens hends
    have hopens : Opens .blockMappingStart (m + 2) m outer (m :: outer) [.blockMappingStart] :=
      .begins outer (Int.ofNat_lt.mpr (by omega))
    obtain ⟨hat, hyields⟩ := yields_fields hopens hnames hvalues hm (hends.close (by omega))
    exact ⟨hat, by simpa [valueTokens] using hyields⟩
  constructor
  · intro outer tail tokens hends
    obtain ⟨hat, hyields⟩ := hcut hends
    refine ⟨firstField (m + 2) field ++ moreFields (m + 2) fields, ?_, ?_, ?_⟩
    · simp [afterDash]
    · simpa using hat
    · simpa [valueTokens] using hyields
  · intro column outer tail tokens _ hends
    obtain ⟨hat, hyields⟩ := hcut hends
    have hline : Place.Yields ⟨newLine (m + 2) ++ (firstField (m + 2) field ++
        (moreFields (m + 2) fields ++ tail)), column, m, outer, false⟩ _ :=
      Place.yields_newLine hyields hat
    have hform : afterColon m column (.object (field :: fields)) ++ tail =
        newLine (m + 2) ++ (firstField (m + 2) field ++ (moreFields (m + 2) fields ++ tail)) := by
      simp [afterColon]
    rw [hform]
    exact ⟨rfl, hline⟩

/-! ## Tidy values -/

theorem isPlain_of_mem_words
    {t : Text} (ht : t ∈ (["null", "true", "false"] : List String).map Text.ofString) :
    IsPlain t := by
  have hwords : ∀ w ∈ (["null", "true", "false"] : List String).map Text.ofString,
      (∀ p ∈ w, (isSimple p = true ∧ isFeed p = false) ∧ isSpace p = false ∧
        p ≠ .char ':' ∧ p ≠ .char '#') ∧ w ≠ [] ∧ beginsWithMark w = false := by
    decide
  obtain ⟨hsigns, hfilled, hbegins⟩ := hwords t ht
  exact isPlain_of_forall hsigns hfilled hbegins

theorem isCut_of_isPlain
    {w : Text} (hw : IsPlain w) (hleaf : ∀ column, leaf? (m + 2) column j = some w)
    (htokens : ∀ indentless, valueTokens indentless j = [.scalar true w]) : IsCut m j :=
  isCut_of_isLeaf (fun column => ⟨w, hleaf column, Lexer.isLeaf_plain hw⟩) htokens

/-- A tidy value with short keys is cut into its tokens wherever it is written, unless it is so
deep that it reaches the width of a line. -/
theorem isCut_of_isTidy
    (htidy : j.IsTidy depth) (hkeys : j.HasShortKeys) (hm : m + 2 * depth + 2 < width) :
    IsCut m j := by
  -- The column varies along the induction: each level of `depth` pays for two more columns.
  induction htidy generalizing m with
  | null => exact isCut_of_isPlain (isPlain_of_mem_words (by decide)) (fun _ => rfl) fun _ => rfl
  | bool b =>
      cases b with
      | true =>
          exact isCut_of_isPlain (isPlain_of_mem_words (by decide)) (fun _ => rfl) fun _ => rfl
      | false =>
          exact isCut_of_isPlain (isPlain_of_mem_words (by decide)) (fun _ => rfl) fun _ => rfl
  | int hn => exact isCut_of_isPlain (isPlain_ofInt _) (fun _ => rfl) fun _ => rfl
  | text t =>
      have hleaf : ∀ column,
          IsLeaf m (textFrom true (m + 2) column t) [.scalar (allowsPlain t) t] := fun column =>
        Lexer.isLeaf_textFrom (by omega) (by omega) t
      exact isCut_of_isLeaf (fun column => ⟨_, rfl, hleaf column⟩) fun _ => rfl
  | @array depth items _ ih =>
      rw [Json.hasShortKeys_array_iff] at hkeys
      cases items with
      | nil =>
          have hleaf := Lexer.isLeaf_of_isEmptyFlow (m := m) .sequence
          exact isCut_of_isLeaf (fun column => ⟨_, rfl, hleaf⟩) fun _ => rfl
      | cons item items =>
          exact isCut_array (fun j hj => ih j hj (hkeys j hj) (by omega))
            fun j hj => ih j hj (hkeys j hj) (by omega)
  | @object depth fields _ _ ih =>
      rw [Json.hasShortKeys_object_iff] at hkeys
      cases fields with
      | nil =>
          have hleaf := Lexer.isLeaf_of_isEmptyFlow (m := m) .mapping
          exact isCut_of_isLeaf (fun column => ⟨_, rfl, hleaf⟩) fun _ => rfl
      | cons field fields =>
          exact isCut_object (fun f hf => (hkeys f hf).1)
            (fun f hf => ih f hf (hkeys f hf).2 (by omega)) (by omega)

/-! ## The signs of what is written -/

/-- All that is written of the value is printable ASCII and line feeds. -/
structure IsClean (j : Json) : Prop where
  dash (m : Nat) : ∀ p ∈ afterDash m j, isSimple p = true
  colon (m column : Nat) : ∀ p ∈ afterColon m column j, isSimple p = true

theorem isClean_of_leaf?
    (hleaf : ∀ m column, ∃ w, leaf? m column j = some w ∧ ∀ p ∈ w, isSimple p = true) :
    IsClean j := by
  constructor
  · intro m
    obtain ⟨w, hw, hsimple⟩ := hleaf (m + 2) (m + 1 + 1)
    rw [(after_of_leaf? hw).2 rfl]
    exact List.forall_mem_cons.mpr ⟨rfl, hsimple⟩
  · intro m column
    obtain ⟨w, hw, hsimple⟩ := hleaf (m + 2) (column + 1)
    rw [(after_of_leaf? hw).1]
    exact List.forall_mem_cons.mpr ⟨rfl, hsimple⟩

theorem isSimple_items {items : List Json} (hitems : ∀ j ∈ items, IsClean j) :
    ∀ p ∈ moreItems m items, isSimple p = true := by
  induction items with
  | nil => exact List.forall_mem_nil _
  | cons item items ih =>
      obtain ⟨hitem, hitems⟩ := List.forall_mem_cons.mp hitems
      simp only [moreItems, Text.concat, List.flatten_cons, List.flatten_nil, List.append_nil,
        List.forall_mem_append]
      exact ⟨isSimple_newLine m, List.forall_mem_singleton.mpr rfl, hitem.dash m, ih hitems⟩

theorem isSimple_field {field : Text × Json} (hvalue : IsClean field.2) :
    ∀ p ∈ firstField m field, isSimple p = true := by
  obtain ⟨name, value⟩ := field
  unfold firstField
  split
  · simp only [Text.concat, List.flatten_cons, List.flatten_nil, List.append_nil,
      List.forall_mem_append]
    exact ⟨isSimple_textFrom _ _ _ _, List.forall_mem_singleton.mpr rfl, hvalue.colon m _⟩
  · simp only [Text.concat, List.flatten_cons, List.flatten_nil, List.append_nil,
      List.forall_mem_append]
    exact ⟨by decide, isSimple_textFrom _ _ _ _, isSimple_newLine m,
      List.forall_mem_singleton.mpr rfl, hvalue.dash m⟩

theorem isSimple_fields
    {fields : List (Text × Json)} (hvalues : ∀ field ∈ fields, IsClean field.2) :
    ∀ p ∈ moreFields m fields, isSimple p = true := by
  induction fields with
  | nil => exact List.forall_mem_nil _
  | cons field fields ih =>
      obtain ⟨hvalue, hvalues⟩ := List.forall_mem_cons.mp hvalues
      rw [moreFields]
      exact List.forall_mem_append.mpr ⟨List.forall_mem_append.mpr
        ⟨isSimple_newLine m, isSimple_field hvalue⟩, ih hvalues⟩

theorem isClean_of_isTidy (htidy : j.IsTidy depth) : IsClean j := by
  induction htidy with
  | null => exact isClean_of_leaf? fun m column => ⟨_, rfl, by decide⟩
  | bool b =>
      cases b with
      | true => exact isClean_of_leaf? fun m column => ⟨_, rfl, by decide⟩
      | false => exact isClean_of_leaf? fun m column => ⟨_, rfl, by decide⟩
  | @int _ n hn =>
      exact isClean_of_leaf? fun m column => ⟨_, rfl, fun p hp => ((isPlain_ofInt n).simple p hp).1⟩
  | text t => exact isClean_of_leaf? fun m column => ⟨_, rfl, isSimple_textFrom _ _ _ t⟩
  | @array depth items _ ih =>
      cases items with
      | nil => exact isClean_of_leaf? fun m column => ⟨_, rfl, by decide⟩
      | cons item items =>
          obtain ⟨hitem, hitems⟩ := List.forall_mem_cons.mp ih
          constructor
          · intro m
            simp only [afterDash, Text.concat, List.flatten_cons, List.flatten_nil,
              List.append_nil, List.forall_mem_append]
            exact ⟨by decide, hitem.dash _, isSimple_items hitems⟩
          · intro m column
            simp only [afterColon, Text.concat, List.flatten_cons, List.flatten_nil,
              List.append_nil, List.forall_mem_append]
            exact ⟨isSimple_newLine m, by decide, hitem.dash _, isSimple_items hitems⟩
  | @object depth fields _ _ ih =>
      cases fields with
      | nil => exact isClean_of_leaf? fun m column => ⟨_, rfl, by decide⟩
      | cons field fields =>
          obtain ⟨hfield, hfields⟩ := List.forall_mem_cons.mp ih
          constructor
          · intro m
            simp only [afterDash, List.forall_mem_append, List.forall_mem_cons]
            exact ⟨⟨rfl, isSimple_field hfield⟩, isSimple_fields hfields⟩
          · intro m column
            simp only [afterColon, List.forall_mem_append]
            exact ⟨⟨isSimple_newLine _, isSimple_field hfield⟩, isSimple_fields hfields⟩

/-! ## Texts of mappings -/

/-- At the end of the text the outermost mapping ends. -/
theorem yields_end : Place.Yields ⟨[], 0, 0, [-1], true⟩ [.blockEnd] := by
  intro s hs fuel earlier hfuel
  obtain ⟨fuel, rfl⟩ := Nat.exists_eq_add_one_of_ne_zero (Nat.ne_of_gt hfuel)
  obtain ⟨⟨rest, index, line, column⟩, flow, indent, outer, allowed, keys, pieces, slots⟩ := s
  obtain ⟨hrest, hcolumn, hindent, houter, hallowed, hflow, hkeys⟩ := hs
  dsimp only at hrest hcolumn hindent houter hallowed hflow hkeys
  subst hrest hcolumn hindent houter hallowed hflow hkeys
  have hrun : Lexer.run (fuel + 1) earlier
      ⟨⟨[], index, line, 0⟩, 0, 0, [-1], true, [], pieces, slots⟩ =
      (Piece.tokens (.token .blockEnd :: pieces), none) := rfl
  rw [hrun, Piece.tokens_token]
  rfl

theorem endsLine_end : EndsLine 0 [-1] "\n" [.blockEnd] :=
  ⟨0, [], rfl, Nat.le_refl 0, ⟨by simp, rfl⟩, yields_end⟩

theorem unifyLineBreaks_eq_self {t : Text} (ht : .char '\r' ∉ t) : t.unifyLineBreaks = t := by
  induction t with
  | nil => rfl
  | cons c t ih =>
      rw [List.mem_cons, not_or] at ht
      unfold Text.unifyLineBreaks
      split
      · cases ‹_ :: _ = []›
      · cases ‹_›
        exact absurd rfl ht.1
      · cases ‹_›
        exact absurd rfl ht.1
      · cases ‹_›
        rw [ih ht.2]

/-- A text of printable ASCII and line feeds is cut as it is. -/
theorem tokensOf_of_isSimple {t : Text} (ht : ∀ p ∈ t, isSimple p = true) :
    tokensOf t = Lexer.run (t.length + 1) (.start t) (.start t) := by
  have hunified : unifyBreaks t = t := by
    rw [unifyBreaks, unifyLineBreaks_eq_self fun hp => nomatch ht _ hp]
    refine (List.map_congr_left fun p hp => if_neg ?_).trans (List.map_id' t)
    rintro rfl
    cases ht _ hp
  have hmark : dropMark t = t := by
    unfold dropMark
    split
    · cases ht _ List.mem_cons_self
    · rfl
  rw [tokensOf, hunified, hmark]

theorem isAllowed_of_isSimple {p : CodePoint} (hp : isSimple p = true) : isAllowed p = true := by
  simp only [isSimple, Bool.or_eq_true, Bool.and_eq_true, beq_iff_eq, decide_eq_true_eq] at hp
  simp only [isAllowed, Bool.or_eq_true, Bool.and_eq_true, beq_iff_eq, decide_eq_true_eq]
  omega

/-- What is written of a tidy mapping is printable ASCII and line feeds. -/
theorem isSimple_write
    {fields : List (Text × Json)} (htidy : Json.IsTidy depth (.object fields)) :
    ∀ p ∈ write fields, isSimple p = true := by
  cases htidy with
  | object _ hvalues =>
      have hclean : ∀ field ∈ fields, IsClean field.2 :=
        fun field hfield => isClean_of_isTidy (hvalues field hfield)
      cases fields with
      | nil => decide
      | cons field fields =>
          obtain ⟨hfield, hfields⟩ := List.forall_mem_cons.mp hclean
          simp only [write, Text.concat, List.flatten_cons, List.flatten_nil, List.append_nil,
            List.forall_mem_append]
          exact ⟨isSimple_field hfield, isSimple_fields hfields,
            List.forall_mem_singleton.mpr rfl⟩

/-- A tidy mapping with short keys is cut into its tokens. -/
theorem tokensOf_write
    {field : Text × Json} {fields : List (Text × Json)}
    (htidy : Json.IsTidy depth (.object (field :: fields)))
    (hkeys : (Json.object (field :: fields)).HasShortKeys) (hdepth : 2 * depth < width) :
    tokensOf (write (field :: fields)) = (valueTokens false (.object (field :: fields)), none) := by
  rw [tokensOf_of_isSimple (isSimple_write htidy)]
  cases htidy with
  | object _ hvalues =>
      rw [Json.hasShortKeys_object_iff] at hkeys
      have hopens : Opens .blockMappingStart 0 (-1) [] [-1] [.blockMappingStart] :=
        .begins [] (by decide)
      have hcut : ∀ f ∈ field :: fields, IsCut 0 f.2 :=
        fun f hf => isCut_of_isTidy (hvalues f hf) (hkeys f hf).2 (by omega)
      obtain ⟨-, hyields⟩ := yields_fields hopens (fun f hf => (hkeys f hf).1) hcut (by decide)
        endsLine_end
      have hform : write (field :: fields) =
          firstField 0 field ++ (moreFields 0 fields ++ Text.ofString "\n") := by
        simp [write, Text.concat]
      rw [hform]
      exact hyields (.start _) ⟨rfl, rfl, rfl, rfl, rfl, rfl, rfl⟩ _ _ (Nat.lt_succ_self _)

end Yaml
end ActorManifest
