import ActorManifest.Proofs.Yaml.Blocks
import ActorManifest.Yaml.Node.Assembly

/-!
# Putting the tokens of values together

The tokens of a value are put together to its node, whatever tokens follow.  Of the fuel each
token takes four units at most, and each collection takes one level.
-/

namespace ActorManifest
namespace Yaml

/-! ## Nodes of values -/

mutual

/-- The node of a written value. -/
def valueNode : Json → Node
  | .null => .scalar none .null "null"
  | .bool true => .scalar none .bool "true"
  | .bool false => .scalar none .bool "false"
  | .int n => .scalar none .int (Text.ofInt n)
  | .float x => .scalar none .float (Writer.floatText x)
  | .text t => .scalar none .str t
  | .array items => .sequence none .seq (itemNodes items)
  | .object fields => .mapping none .map (fieldNodes fields)

/-- The nodes of the items of a sequence. -/
def itemNodes : List Json → List Node
  | [] => []
  | item :: items => valueNode item :: itemNodes items

/-- The nodes of the keys and values of a mapping. -/
def fieldNodes : List (Text × Json) → List (Node × Node)
  | [] => []
  | (name, value) :: fields => (.scalar none .str name, valueNode value) :: fieldNodes fields

end

namespace Assembly

variable {context : Context} {depth fuel : Nat} {rest : List Token} {handles : List (Text × Text)}
  {anchors : List Text} {s : Assembly} {t : Token} {j : Json} {indentless : Bool}

/-! ## Steps -/

theorem node_scalar (plain : Bool) (content : Text) :
    node context depth (fuel + 1) ⟨.scalar plain content :: rest, none, handles, anchors⟩ =
      .ok (.scalar none (Node.scalarTag none plain content) content,
        ⟨rest, none, handles, anchors⟩) := by
  rfl

/-- The node of a collection without properties. -/
theorem node_of_body
    {layout : Layout} {content : Body} (hlayout : layout? context (some t) = some layout)
    (hbody : body layout depth fuel ⟨t :: rest, none, handles, anchors⟩ = .ok (content, s)) :
    node context (depth + 1) (fuel + 1) ⟨t :: rest, none, handles, anchors⟩ =
      .ok (content.node none none, s) := by
  have hnode : node context (depth + 1) (fuel + 1) ⟨t :: rest, none, handles, anchors⟩ =
      body layout depth fuel ⟨t :: rest, none, handles, anchors⟩ >>= fun built =>
        .ok (built.1.node none none, built.2) := by
    cases t with
    | flowSequenceStart | flowMappingStart =>
        cases hlayout
        rfl
    | blockSequenceStart | blockMappingStart | blockEntry =>
        cases context <;> cases hlayout
        all_goals rfl
    | _ => cases hlayout
  rw [hnode, hbody]
  rfl

theorem nodeBefore_of_node
    {stops : List Token} {root : Node} (ht : t ∉ stops)
    (hnode : node context depth fuel ⟨t :: rest, none, handles, anchors⟩ = .ok (root, s)) :
    nodeBefore context depth stops (fuel + 1) ⟨t :: rest, none, handles, anchors⟩ =
      .ok (root, s) := by
  have hmissing : isMissingBefore ⟨t :: rest, none, handles, anchors⟩ stops = .ok false := by
    simp [isMissingBefore, peek, bind, Except.bind, pure, Except.pure, ht]
  rw [nodeBefore, hmissing]
  exact hnode

theorem blockItems_of_item
    {tokens : List Token} {s' : Assembly} {item : Node} {items : List Node}
    (hitem : nodeBefore .block depth [.blockEntry, .blockEnd] fuel
      ⟨tokens, none, handles, anchors⟩ = .ok (item, s))
    (hitems : blockItems depth fuel s = .ok (items, s')) :
    blockItems depth (fuel + 1) ⟨.blockEntry :: tokens, none, handles, anchors⟩ =
      .ok (item :: items, s') := by
  simp only [blockItems, peek, drop, List.tail_cons, bind, Except.bind, hitem, hitems]
  rfl

theorem indentlessItems_of_item
    {tokens : List Token} {s' : Assembly} {item : Node} {items : List Node}
    (hitem : nodeBefore .block depth (.blockEntry :: blockStops) fuel
      ⟨tokens, none, handles, anchors⟩ = .ok (item, s))
    (hitems : indentlessItems depth fuel s = .ok (items, s')) :
    indentlessItems depth (fuel + 1) ⟨.blockEntry :: tokens, none, handles, anchors⟩ =
      .ok (item :: items, s') := by
  simp only [indentlessItems, peek, drop, List.tail_cons, bind, Except.bind, hitem, hitems]
  rfl

theorem indentlessItems_of_head
    (hrest : rest.head? ≠ some .blockEntry) :
    indentlessItems depth (fuel + 1) ⟨rest, none, handles, anchors⟩ =
      .ok ([], ⟨rest, none, handles, anchors⟩) := by
  cases rest with
  | nil => rfl
  | cons t rest =>
      cases t with
      | blockEntry => exact absurd rfl hrest
      | _ => rfl

theorem blockEntries_of_entry
    {tokens : List Token} {s' s'' : Assembly} {key value : Node} {entries : List (Node × Node)}
    (hkey : nodeBefore .indentless depth blockStops fuel ⟨tokens, none, handles, anchors⟩ =
      .ok (key, s))
    (hvalue : valueBefore .indentless depth blockStops fuel s = .ok (value, s'))
    (hentries : blockEntries depth fuel s' = .ok (entries, s'')) :
    blockEntries depth (fuel + 1) ⟨.key :: tokens, none, handles, anchors⟩ =
      .ok ((key, value) :: entries, s'') := by
  simp only [blockEntries, peek, drop, List.tail_cons, bind, Except.bind, hkey, hvalue, hentries]
  rfl

/-! ## First tokens -/

/-- A value begins with none of the tokens in front of which one is missing. -/
theorem exists_first (indentless : Bool) (j : Json) :
    ∃ t ts, valueTokens indentless j = t :: ts ∧ t ∉ blockStops ∧
      (indentless = false → t ≠ .blockEntry) := by
  cases j with
  | bool b => cases b <;> exact ⟨_, _, rfl, by decide, fun _ => nofun⟩
  | array items =>
      cases items with
      | nil => exact ⟨_, _, rfl, by decide, fun _ => nofun⟩
      | cons item items =>
          cases indentless with
          | true => exact ⟨_, _, rfl, by decide, nofun⟩
          | false => exact ⟨_, _, rfl, by decide, fun _ => nofun⟩
  | object fields =>
      cases fields <;> exact ⟨_, _, rfl, by decide, fun _ => nofun⟩
  | _ => exact ⟨_, _, rfl, by simp [blockStops], fun _ => nofun⟩

/-! ## Values -/

/-- With enough fuel and so many levels the tokens of the value are put together to its node.  A
sequence without start and end may stand as the value of a key only, and no other entry may
follow. -/
def IsAssembled (depth : Nat) (j : Json) : Prop :=
  ∀ context indentless fuel rest handles anchors, context ≠ .flow →
    (indentless = true → context = .indentless ∧ rest.head? ≠ some .blockEntry) →
    4 * (valueTokens indentless j).length ≤ fuel →
    node context depth fuel ⟨valueTokens indentless j ++ rest, none, handles, anchors⟩ =
      .ok (valueNode j, ⟨rest, none, handles, anchors⟩)

theorem IsAssembled.nodeBefore
    {stops : List Token} (hj : IsAssembled depth j) (hcontext : context ≠ .flow)
    (hindentless : indentless = true → context = .indentless ∧ rest.head? ≠ some .blockEntry)
    (hstops : ∀ t ∈ stops, t ∈ blockStops ∨ indentless = false ∧ t = .blockEntry)
    (hfuel : 4 * (valueTokens indentless j).length ≤ fuel) :
    Assembly.nodeBefore context depth stops (fuel + 1)
        ⟨valueTokens indentless j ++ rest, none, handles, anchors⟩ =
      .ok (valueNode j, ⟨rest, none, handles, anchors⟩) := by
  have hnode := hj context indentless fuel rest handles anchors hcontext hindentless hfuel
  obtain ⟨t, ts, hfirst, hstop, hentry⟩ := exists_first indentless j
  rw [hfirst] at hnode ⊢
  refine nodeBefore_of_node (fun ht => ?_) hnode
  rcases hstops t ht with hmem | ⟨hfalse, rfl⟩
  · exact hstop hmem
  · exact hentry hfalse rfl

theorem IsAssembled.valueBefore
    (hj : IsAssembled depth j) (hcontext : context ≠ .flow)
    (hindentless : indentless = true → context = .indentless ∧ rest.head? ≠ some .blockEntry)
    (hfuel : 4 * (valueTokens indentless j).length ≤ fuel) :
    Assembly.valueBefore context depth blockStops (fuel + 2)
        ⟨.value :: (valueTokens indentless j ++ rest), none, handles, anchors⟩ =
      .ok (valueNode j, ⟨rest, none, handles, anchors⟩) :=
  hj.nodeBefore hcontext hindentless (fun _ => .inl) hfuel

/-- A text is text in either style. -/
theorem scalarTag_of_text (t : Text) :
    Node.scalarTag none (Writer.allowsPlain t) t = .str := by
  cases hplain : Writer.allowsPlain t with
  | true =>
      simp only [Writer.allowsPlain, Bool.and_eq_true, beq_iff_eq] at hplain
      exact hplain.1.1.1.1.1
  | false => rfl

/-! ## Sequences -/

theorem blockItems_itemTokens
    {items : List Json} (hitems : ∀ j ∈ items, IsAssembled depth j)
    (hfuel : 4 * (itemTokens items).length < fuel) :
    blockItems depth fuel ⟨itemTokens items ++ .blockEnd :: rest, none, handles, anchors⟩ =
      .ok (itemNodes items, ⟨rest, none, handles, anchors⟩) := by
  -- The mark of an item pays for the call on the item and for the call on the items behind it.
  obtain ⟨fuel, rfl⟩ := Nat.exists_eq_add_one_of_ne_zero (Nat.ne_of_gt (Nat.zero_lt_of_lt hfuel))
  induction items generalizing fuel with
  | nil => rfl
  | cons item items ih =>
      obtain ⟨hitem, hitems⟩ := List.forall_mem_cons.mp hitems
      rw [itemTokens] at hfuel ⊢
      simp only [List.length_cons, List.length_append] at hfuel
      obtain ⟨fuel, rfl⟩ := Nat.exists_eq_add_one_of_ne_zero (show fuel ≠ 0 by omega)
      rw [List.cons_append, List.append_assoc]
      refine blockItems_of_item ?_ (ih hitems fuel (by omega))
      exact hitem.nodeBefore (fun h => by cases h) (fun h => by cases h) (by simp [blockStops])
        (by omega)

theorem indentlessItems_itemTokens
    {items : List Json} (hitems : ∀ j ∈ items, IsAssembled depth j)
    (hrest : rest.head? ≠ some .blockEntry) (hfuel : 4 * (itemTokens items).length ≤ fuel + 3) :
    indentlessItems depth (fuel + 1) ⟨itemTokens items ++ rest, none, handles, anchors⟩ =
      .ok (itemNodes items, ⟨rest, none, handles, anchors⟩) := by
  induction items generalizing fuel with
  | nil => exact indentlessItems_of_head hrest
  | cons item items ih =>
      obtain ⟨hitem, hitems⟩ := List.forall_mem_cons.mp hitems
      rw [itemTokens] at hfuel ⊢
      simp only [List.length_cons, List.length_append] at hfuel
      obtain ⟨fuel, rfl⟩ := Nat.exists_eq_add_one_of_ne_zero (show fuel ≠ 0 by omega)
      rw [List.cons_append, List.append_assoc]
      refine indentlessItems_of_item ?_ (ih hitems (by omega))
      exact hitem.nodeBefore (fun h => by cases h) (fun h => by cases h) (by simp [blockStops])
        (by omega)

theorem isAssembled_array
    {items : List Json} (hitems : ∀ j ∈ items, IsAssembled depth j) :
    IsAssembled (depth + 1) (.array items) := by
  intro context indentless fuel rest handles anchors hcontext hindentless hfuel
  obtain ⟨t, ts, hfirst, -⟩ := exists_first indentless (.array items)
  obtain ⟨fuel, rfl⟩ := Nat.exists_eq_add_of_le' (show 3 ≤ fuel by
    rw [hfirst, List.length_cons] at hfuel
    omega)
  cases items with
  | nil => cases context <;> rfl
  | cons item items =>
      cases indentless with
      | true =>
          obtain ⟨rfl, hrest⟩ := hindentless rfl
          have hform : valueTokens true (.array (item :: items)) = itemTokens (item :: items) := by
            simp [valueTokens, itemTokens]
          rw [hform] at hfuel ⊢
          have hbody : body .indentlessSequence depth (fuel + 2)
              ⟨itemTokens (item :: items) ++ rest, none, handles, anchors⟩ =
                .ok (.sequence (itemNodes (item :: items)), ⟨rest, none, handles, anchors⟩) := by
            rw [body, indentlessItems_itemTokens hitems hrest (by omega)]
            rfl
          exact node_of_body rfl hbody
      | false =>
          have hform : valueTokens false (.array (item :: items)) ++ rest =
              .blockSequenceStart :: (itemTokens (item :: items) ++ .blockEnd :: rest) := by
            simp [valueTokens, itemTokens]
          have hlength : 4 * (itemTokens (item :: items)).length < fuel + 1 := by
            simp only [valueTokens, itemTokens, List.length_cons, List.length_append,
              Bool.false_eq_true, if_false] at hfuel ⊢
            omega
          have hbody : body .blockSequence depth (fuel + 2)
              ⟨.blockSequenceStart :: (itemTokens (item :: items) ++ .blockEnd :: rest), none,
                handles, anchors⟩ =
                .ok (.sequence (itemNodes (item :: items)), ⟨rest, none, handles, anchors⟩) := by
            simp only [body, drop, List.tail_cons, blockItems_itemTokens hitems hlength]
            rfl
          rw [hform]
          cases context with
          | flow => exact absurd rfl hcontext
          | block | indentless => exact node_of_body rfl hbody

/-! ## Mappings -/

theorem blockEntries_fieldTokens
    {fields : List (Text × Json)} (hvalues : ∀ field ∈ fields, IsAssembled depth field.2)
    (hfuel : 4 * (fieldTokens fields).length < fuel) :
    blockEntries depth fuel ⟨fieldTokens fields ++ .blockEnd :: rest, none, handles, anchors⟩ =
      .ok (fieldNodes fields, ⟨rest, none, handles, anchors⟩) := by
  obtain ⟨fuel, rfl⟩ := Nat.exists_eq_add_one_of_ne_zero (Nat.ne_of_gt (Nat.zero_lt_of_lt hfuel))
  induction fields generalizing fuel with
  | nil => rfl
  | cons field fields ih =>
      obtain ⟨name, value⟩ := field
      obtain ⟨hvalue, hvalues⟩ := List.forall_mem_cons.mp hvalues
      have hvalue : IsAssembled depth value := hvalue
      rw [fieldTokens] at hfuel ⊢
      simp only [List.length_cons, List.length_append] at hfuel
      -- The key, its text and the mark of the value pay for the three calls in between.
      obtain ⟨fuel, rfl⟩ := Nat.exists_eq_add_of_le' (show 3 ≤ fuel by omega)
      have hrest := ih hvalues (fuel + 2) (by omega)
      simp only [List.cons_append, List.append_assoc]
      refine blockEntries_of_entry (s := ⟨.value :: (valueTokens (Writer.isSimpleKey name) value ++
        (fieldTokens fields ++ .blockEnd :: rest)), none, handles, anchors⟩) ?_ ?_ hrest
      · refine nodeBefore_of_node (by simp [blockStops]) ?_
        rw [node_scalar, scalarTag_of_text]
      · refine hvalue.valueBefore (fun h => by cases h) (fun _ => ⟨rfl, ?_⟩) (by omega)
        -- The next token is a key or the end of the block, never another entry.
        cases fields <;> simp [fieldTokens]

theorem isAssembled_object
    {fields : List (Text × Json)} (hvalues : ∀ field ∈ fields, IsAssembled depth field.2) :
    IsAssembled (depth + 1) (.object fields) := by
  intro context indentless fuel rest handles anchors hcontext _ hfuel
  obtain ⟨t, ts, hfirst, -⟩ := exists_first indentless (.object fields)
  obtain ⟨fuel, rfl⟩ := Nat.exists_eq_add_of_le' (show 3 ≤ fuel by
    rw [hfirst, List.length_cons] at hfuel
    omega)
  cases fields with
  | nil => cases context <;> rfl
  | cons field fields =>
      have hform : valueTokens indentless (.object (field :: fields)) ++ rest =
          .blockMappingStart :: (fieldTokens (field :: fields) ++ .blockEnd :: rest) := by
        simp [valueTokens]
      have hlength : 4 * (fieldTokens (field :: fields)).length < fuel + 1 := by
        simp only [valueTokens, List.length_cons, List.length_append] at hfuel ⊢
        omega
      have hbody : body .blockMapping depth (fuel + 2)
          ⟨.blockMappingStart :: (fieldTokens (field :: fields) ++ .blockEnd :: rest), none,
            handles, anchors⟩ =
            .ok (.mapping (fieldNodes (field :: fields)), ⟨rest, none, handles, anchors⟩) := by
        simp only [body, drop, List.tail_cons, blockEntries_fieldTokens hvalues hlength]
        rfl
      rw [hform]
      cases context with
      | flow => exact absurd rfl hcontext
      | block | indentless => exact node_of_body rfl hbody

/-! ## Documents -/

theorem isAssembled_of_scalar
    {plain : Bool} {content : Text} {tag : Tag}
    (htokens : ∀ indentless, valueTokens indentless j = [.scalar plain content])
    (htag : Node.scalarTag none plain content = tag)
    (hnode : valueNode j = .scalar none tag content) : IsAssembled depth j := by
  intro context indentless fuel rest handles anchors _ _ hfuel
  rw [htokens] at hfuel ⊢
  obtain ⟨fuel, rfl⟩ := Nat.exists_eq_add_one_of_ne_zero (show fuel ≠ 0 by simp at hfuel; omega)
  rw [hnode, ← htag]
  exact node_scalar plain content

theorem isAssembled_of_isTidy
    (htidy : j.IsTidy depth) {levels : Nat} (hlevels : depth ≤ levels) : IsAssembled levels j := by
  induction htidy generalizing levels with
  | null => exact isAssembled_of_scalar (fun _ => rfl) (by decide) rfl
  | bool b =>
      cases b with
      | true => exact isAssembled_of_scalar (fun _ => rfl) (by decide) rfl
      | false => exact isAssembled_of_scalar (fun _ => rfl) (by decide) rfl
  | int hn => exact isAssembled_of_scalar (fun _ => rfl) (ofPlain_ofInt _) rfl
  | text t => exact isAssembled_of_scalar (fun _ => rfl) (scalarTag_of_text t) rfl
  | array _ ih =>
      obtain ⟨levels, rfl⟩ := Nat.exists_eq_add_one_of_ne_zero (show levels ≠ 0 by omega)
      exact isAssembled_array fun item hitem => ih item hitem (Nat.le_of_succ_le_succ hlevels)
  | object _ _ ih =>
      obtain ⟨levels, rfl⟩ := Nat.exists_eq_add_one_of_ne_zero (show levels ≠ 0 by omega)
      exact isAssembled_object fun field hfield =>
        ih field hfield (Nat.le_of_succ_le_succ hlevels)

/-- The tokens of a mapping are put together to the node of a document. -/
theorem ofTokens_valueTokens [Machine]
    {fields : List (Text × Json)} (htidy : (Json.object fields).IsTidy depth)
    (hdepth : depth ≤ Machine.nodeLevels) :
    Node.ofTokens (valueTokens false (.object fields)) none =
      .ok (some (valueNode (.object fields))) := by
  have hroot := isAssembled_of_isTidy htidy hdepth .block false
    (8 * (valueTokens false (.object fields)).length + 16) [] defaultHandles [] nofun nofun
    (by omega)
  obtain ⟨t, ts, hfirst, hbegins⟩ : ∃ t ts, valueTokens false (.object fields) = t :: ts ∧
      beginsDocument t = false := by
    cases fields with
    | nil => exact ⟨_, _, rfl, rfl⟩
    | cons field fields => exact ⟨_, _, rfl, rfl⟩
  rw [List.append_nil, hfirst] at hroot
  rw [hfirst]
  simp only [Node.ofTokens, start, document, peek, bind, Except.bind, hbegins,
    Bool.false_eq_true, if_false, Bool.false_and, pure, Except.pure, hroot]
  rfl

end Assembly
end Yaml
end ActorManifest
