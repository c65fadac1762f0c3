import ActorManifest.Entries
import ActorManifest.Text.Basic
import Mathlib.Data.List.Induction

/-!
# Entries with texts as names

Writing a value to a name keeps the names of the entries apart, so a list of writes gives
entries with different names.  Where the names differ from the start, the entries are
written one after another and come out as they are.
-/

namespace ActorManifest

namespace Entries

/-- The names of variables. -/
def names (entries : Entries Text Text) : List Text :=
  entries.map Prod.fst

theorem keys_put_of_mem
    {α : Type} {name : Text} {value : α} {entries : Entries Text α}
    (hmem : name ∈ entries.map Prod.fst) :
    (put (· == ·) name value entries).map Prod.fst = entries.map Prod.fst := by
  induction entries with
  | nil => simp at hmem
  | cons entry rest ih =>
      rcases entry with ⟨key, old⟩
      by_cases hkey : key = name
      · simp [put, hkey]
      · have hrest : name ∈ rest.map Prod.fst := by
          simpa [Ne.symm hkey] using hmem
        simp [put, hkey, ih hrest]

section New

variable {κ α : Type} {same : κ → κ → Bool}

/-- A new key is written at the end. -/
theorem put_of_forall
    {key : κ} {entries : Entries κ α} (value : α)
    (hnew : ∀ entry ∈ entries, same entry.1 key = false) :
    put same key value entries = entries ++ [(key, value)] := by
  induction entries with
  | nil => rfl
  | cons entry rest ih =>
      obtain ⟨hfirst, hrest⟩ := List.forall_mem_cons.mp hnew
      simp [put, hfirst, ih hrest]

/-- Entries with different keys are written one after another. -/
theorem ofList_of_pairwise
    {entries : Entries κ α}
    (hdiffer : entries.Pairwise fun first second => same first.1 second.1 = false) :
    ofList same entries = entries := by
  induction entries using List.reverseRecOn with
  | nil => rfl
  | append_singleton entries entry ih =>
      obtain ⟨hentries, -, hnew⟩ := List.pairwise_append.mp hdiffer
      have hput := put_of_forall entry.2 fun first hfirst =>
        hnew first hfirst entry (List.mem_singleton_self entry)
      rw [ofList, List.foldl_append]
      exact (congrArg _ (ih hentries)).trans hput

end New

theorem put_of_not_mem
    {α : Type} {name : Text} {value : α} {entries : Entries Text α}
    (hmem : name ∉ entries.map Prod.fst) :
    put (· == ·) name value entries = entries ++ [(name, value)] :=
  put_of_forall value fun entry hentry =>
    beq_false_of_ne fun heq => hmem (List.mem_map.mpr ⟨entry, hentry, heq⟩)

theorem nodup_keys_put
    {α : Type} {name : Text} {value : α} {entries : Entries Text α}
    (hnodup : (entries.map Prod.fst).Nodup) :
    ((put (· == ·) name value entries).map Prod.fst).Nodup := by
  by_cases hmem : name ∈ entries.map Prod.fst
  · rwa [keys_put_of_mem hmem]
  · rw [put_of_not_mem hmem, List.map_append, List.nodup_append]
    refine ⟨hnodup, by simp, ?_⟩
    rintro key hkey other hother rfl
    rw [List.map_singleton, List.mem_singleton] at hother
    rw [hother] at hkey
    exact hmem hkey

/-- The value under a name is the one that was written last. -/
theorem mem_put_iff
    {α : Type} {name : Text} {value : α} {entries : Entries Text α} {entry : Text × α}
    (hnodup : (entries.map Prod.fst).Nodup) :
    entry ∈ put (· == ·) name value entries ↔
      entry = (name, value) ∨ entry ∈ entries ∧ entry.1 ≠ name := by
  induction entries with
  | nil => simp [put]
  | cons first rest ih =>
      rcases first with ⟨key, old⟩
      rw [List.map_cons, List.nodup_cons] at hnodup
      by_cases hkey : key = name
      · subst hkey
        have hrest : entry ∈ rest → entry.1 ≠ key := by
          rintro hentry rfl
          exact hnodup.1 (List.mem_map.mpr ⟨entry, hentry, rfl⟩)
        have hfirst : entry = (key, old) → ¬entry.1 ≠ key := by
          rintro rfl
          simp
        simp only [put, beq_self_eq_true, if_true, List.mem_cons]
        tauto
      · have hfirst : entry = (key, old) → entry.1 ≠ name := by
          rintro rfl
          exact hkey
        simp only [put, beq_iff_eq, hkey, if_false, List.mem_cons, ih hnodup.2]
        tauto

section Lookup

variable {κ α : Type} [BEq κ] [LawfulBEq κ] [DecidableEq κ]

theorem lookup_cons (key other : κ) (value : α) (rest : Entries κ α) :
    List.lookup other ((key, value) :: rest) =
      if other = key then some value else rest.lookup other := by
  by_cases hother : other = key
  · simp [hother]
  · simp [List.lookup_cons, beq_eq_false_iff_ne.mpr hother, hother]

/-- What stands under a key after writing is what was written to it, or else what stood there. -/
theorem lookup_put {entries : Entries κ α} (key other : κ) (value : α) :
    (put (· == ·) key value entries).lookup other =
      if other = key then some value else entries.lookup other := by
  induction entries with
  | nil => exact lookup_cons key other value []
  | cons first rest ih =>
      obtain ⟨k, v⟩ := first
      rw [put, lookup_cons]
      by_cases hkey : k = key
      · rw [if_pos (beq_iff_eq.mpr hkey), lookup_cons, hkey]
        split <;> rfl
      · rw [if_neg (by simpa using hkey), lookup_cons, ih]
        by_cases hother : other = k
        · rw [if_pos hother, if_pos hother, if_neg (hother ▸ hkey)]
        · rw [if_neg hother, if_neg hother]

end Lookup

/-! ## Writing a list of entries -/

theorem ofList_append_singleton
    {α : Type} (pairs : List (Text × α)) (name : Text) (value : α) :
    ofList (· == ·) (pairs ++ [(name, value)]) =
      put (· == ·) name value (ofList (· == ·) pairs) := by
  rw [ofList, List.foldl_append]
  rfl

section Forall

variable {κ α : Type} {same : κ → κ → Bool} {P : κ → Prop} {Q : α → Prop}

theorem forall_put
    {key : κ} {value : α} {entries : Entries κ α} (hkey : P key) (hvalue : Q value)
    (hall : ∀ entry ∈ entries, P entry.1 ∧ Q entry.2) :
    ∀ entry ∈ put same key value entries, P entry.1 ∧ Q entry.2 := by
  induction entries with
  | nil => exact List.forall_mem_singleton.mpr ⟨hkey, hvalue⟩
  | cons first rest ih =>
      obtain ⟨hfirst, hrest⟩ := List.forall_mem_cons.mp hall
      rw [put]
      split
      · exact List.forall_mem_cons.mpr ⟨⟨hfirst.1, hvalue⟩, hrest⟩
      · exact List.forall_mem_cons.mpr ⟨hfirst, ih hrest⟩

/-- Writing one entry after another brings in no other key and no other value. -/
theorem forall_ofList
    (P : κ → Prop) (Q : α → Prop) {pairs : List (κ × α)}
    (hall : ∀ pair ∈ pairs, P pair.1 ∧ Q pair.2) :
    ∀ entry ∈ ofList same pairs, P entry.1 ∧ Q entry.2 := by
  induction pairs using List.reverseRecOn with
  | nil => exact List.forall_mem_nil _
  | append_singleton pairs pair ih =>
      have hlast := hall pair (by simp)
      rw [ofList, List.foldl_append]
      exact forall_put hlast.1 hlast.2 (ih fun pair hpair => hall pair (by simp [hpair]))

end Forall

/-- No key is kept twice, and each stands where it was first written. -/
theorem keys_ofList {α : Type} (pairs : List (Text × α)) :
    ((ofList (· == ·) pairs).map Prod.fst).Nodup ∧
      (ofList (· == ·) pairs).map Prod.fst = (pairs.map Prod.fst).eraseDups := by
  induction pairs using List.reverseRecOn with
  | nil => exact ⟨List.nodup_nil, rfl⟩
  | append_singleton pairs pair ih =>
      rcases pair with ⟨name, value⟩
      obtain ⟨hnodup, hkeys⟩ := ih
      rw [ofList_append_singleton]
      refine ⟨nodup_keys_put hnodup, ?_⟩
      rw [List.map_append, List.eraseDups_append, ← hkeys]
      by_cases hmem : name ∈ pairs.map Prod.fst
      · have hkept : name ∈ (ofList (· == ·) pairs).map Prod.fst := by
          rwa [hkeys, List.mem_eraseDups]
        simp [keys_put_of_mem hkept, List.removeAll, hmem]
      · have hnew : name ∉ (ofList (· == ·) pairs).map Prod.fst := by
          rwa [hkeys, List.mem_eraseDups]
        rw [put_of_not_mem hnew]
        simp [List.removeAll, hmem, List.eraseDups_cons]

/-- What is kept under a key is what was written to it last. -/
theorem exists_of_mem_ofList
    {α : Type} {pairs : List (Text × α)} {entry : Text × α}
    (hentry : entry ∈ ofList (· == ·) pairs) :
    ∃ before after, pairs = before ++ entry :: after ∧ ∀ later ∈ after, later.1 ≠ entry.1 := by
  induction pairs using List.reverseRecOn with
  | nil => cases hentry
  | append_singleton pairs pair ih =>
      rcases pair with ⟨name, value⟩
      rw [ofList_append_singleton, mem_put_iff (keys_ofList pairs).1] at hentry
      rcases hentry with rfl | ⟨hmem, hne⟩
      · exact ⟨pairs, [], rfl, List.forall_mem_nil _⟩
      · obtain ⟨before, after, rfl, hafter⟩ := ih hmem
        refine ⟨before, after ++ [(name, value)], by simp, ?_⟩
        rw [List.forall_mem_append]
        exact ⟨hafter, List.forall_mem_singleton.mpr hne.symm⟩

/-- No name is written twice. -/
theorem nodup_names_ofList (pairs : List (Text × Text)) :
    (ofList (· == ·) pairs).names.Nodup :=
  (keys_ofList pairs).1

theorem ofList_of_nodup
    {α : Type} {entries : Entries Text α} (hnodup : (entries.map Prod.fst).Nodup) :
    ofList (· == ·) entries = entries :=
  ofList_of_pairwise ((List.pairwise_map.mp hnodup).imp beq_false_of_ne)

end Entries

end ActorManifest
