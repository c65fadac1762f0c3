import ActorManifest.EnvFile.Variables
import ActorManifest.Proofs.Entries

/-!
# What a file of variables gives

Of all bindings of a name in a file of variables the last one counts, and only for a name that the
process has no value for.  A reference in it stands for a value of the process, or else for one
that is bound before it.
-/

namespace ActorManifest

theorem Variables.get?_setNew
    {environment : Variables} {name : Text} (hnew : environment.get? name = none)
    (value other : Text) :
    (environment.setNew name value).get? other =
      if other = name then some value else environment.get? other := by
  unfold setNew
  rw [hnew]
  dsimp only
  unfold get? at hnew ⊢
  rw [List.lookup_append, Entries.lookup_cons]
  by_cases hother : other = name
  · rw [hother, hnew, if_pos rfl, if_pos rfl]
    rfl
  · rw [if_neg hother, if_neg hother, List.lookup_nil, Option.or_none]

namespace EnvFile

variable {environment later : Variables} {name value : Text}

/-! ## Bindings -/

/-- The bindings give a value to a name: it is what the last of them for the name says, where
references stand for values of the process or for those that are bound before. -/
def Gives (environment : Variables) (bindings : List (Text × Option Text)) (name value : Text) :
    Prop :=
  ∃ before raw after, bindings = before ++ (name, some raw) :: after ∧
    (∀ binding ∈ after, binding.1 ≠ name) ∧
    value = expand (valueAmong? environment (resolve environment before)) raw

theorem resolve_append_singleton
    (environment : Variables) (bindings : List (Text × Option Text)) (name : Text)
    (raw : Option Text) :
    resolve environment (bindings ++ [(name, raw)]) =
      Entries.put (· == ·) name
        (raw.map (expand (valueAmong? environment (resolve environment bindings))))
        (resolve environment bindings) := by
  rw [resolve, List.foldl_append]
  rfl

theorem nodup_keys_resolve (environment : Variables) (bindings : List (Text × Option Text)) :
    ((resolve environment bindings).map Prod.fst).Nodup := by
  induction bindings using List.reverseRecOn with
  | nil => exact List.nodup_nil
  | append_singleton bindings binding ih =>
      rw [resolve_append_singleton]
      exact Entries.nodup_keys_put ih

theorem not_gives_nil : ¬Gives environment [] name value := by
  rintro ⟨before, raw, after, hnil, -⟩
  simp at hnil

/-- The last binding decides on its own name, and on no other. -/
theorem gives_append_singleton_iff
    {bindings : List (Text × Option Text)} {last : Text × Option Text} :
    Gives environment (bindings ++ [last]) name value ↔
      if name = last.1 then
        last.2.map (expand (valueAmong? environment (resolve environment bindings))) = some value
      else Gives environment bindings name value := by
  obtain ⟨key, raw⟩ := last
  constructor
  · rintro ⟨before, found, after, hbindings, hafter, hvalue⟩
    -- The binding that gives the value is the last one, or the last one is among those after it.
    rcases List.eq_nil_or_concat after with rfl | ⟨after, last, rfl⟩
    · obtain ⟨rfl, hlast⟩ := List.append_inj' hbindings rfl
      cases hlast
      rw [if_pos rfl, hvalue]
      rfl
    · rw [List.concat_eq_append] at hbindings hafter
      rw [← List.cons_append, ← List.append_assoc] at hbindings
      obtain ⟨rfl, hlast⟩ := List.append_inj' hbindings rfl
      cases hlast
      rw [List.forall_mem_append, List.forall_mem_singleton] at hafter
      rw [if_neg (Ne.symm hafter.2)]
      exact ⟨before, found, after, rfl, hafter.1, hvalue⟩
  · intro hgives
    split at hgives
    · rename_i hname
      obtain ⟨found, hfound, hvalue⟩ := Option.map_eq_some_iff.mp hgives
      refine ⟨bindings, found, [], ?_, List.forall_mem_nil _, hvalue.symm⟩
      rw [hname]
      exact congrArg (fun r => bindings ++ [(key, r)]) hfound
    · rename_i hname
      obtain ⟨before, found, after, rfl, hafter, hvalue⟩ := hgives
      refine ⟨before, found, after ++ [(key, raw)], by simp, ?_, hvalue⟩
      rw [List.forall_mem_append, List.forall_mem_singleton]
      exact ⟨hafter, Ne.symm hname⟩

theorem lookup_resolve_eq_some_iff {bindings : List (Text × Option Text)} :
    (resolve environment bindings).lookup name = some (some value) ↔
      Gives environment bindings name value := by
  induction bindings using List.reverseRecOn with
  | nil => exact iff_of_false nofun not_gives_nil
  | append_singleton bindings last ih =>
      rw [resolve_append_singleton, Entries.lookup_put, gives_append_singleton_iff, ← ih]
      split
      · rw [Option.some.injEq]
      · exact Iff.rfl

/-! ## Giving variables to a process -/

theorem get?_of_give?
    {entry : Text × Option Text} (hgive : give? environment entry = some later) (other : Text) :
    later.get? other =
      (environment.get? other).or (if other = entry.1 then entry.2 else none) := by
  obtain ⟨name, value⟩ := entry
  cases value with
  | none =>
      cases hgive
      rw [ite_self, Option.or_none]
  | some value =>
      unfold give? at hgive
      dsimp only at hgive ⊢
      cases hget : environment.get? name with
      | some old =>
          rw [hget, Option.isSome_some, if_pos rfl] at hgive
          cases hgive
          split
          · rename_i hother
            rw [hother, hget, Option.some_or]
          · rw [Option.or_none]
      | none =>
          rw [hget, Option.isSome_none, if_neg Bool.false_ne_true] at hgive
          split at hgive
          · cases hgive
            rw [Variables.get?_setNew hget]
            split
            · rename_i hother
              rw [hother, hget, Option.none_or]
            · rw [Option.or_none]
          · cases hgive

theorem get?_of_foldlM_give?
    {entries : Entries Text (Option Text)} (hnodup : (entries.map Prod.fst).Nodup)
    (hgive : entries.foldlM give? environment = some later) (other : Text) :
    later.get? other = (environment.get? other).or (entries.lookup other).join := by
  induction entries generalizing environment with
  | nil =>
      cases hgive
      rw [List.lookup_nil, Option.join_none, Option.or_none]
  | cons entry entries ih =>
      obtain ⟨name, value⟩ := entry
      rw [List.map_cons, List.nodup_cons] at hnodup
      rw [List.foldlM_cons, Option.bind_eq_bind, Option.bind_eq_some_iff] at hgive
      obtain ⟨given, hgiven, hrest⟩ := hgive
      rw [ih hnodup.2 hrest, get?_of_give? hgiven, Entries.lookup_cons, Option.or_assoc]
      dsimp only
      split
      · rename_i hother
        -- The keys differ, so no later entry is about the name.
        have hmissing : entries.lookup other = none := by
          rw [List.lookup_eq_none_iff]
          intro entry hentry
          rw [bne_iff_ne]
          rintro rfl
          exact hnodup.1 (List.mem_map.mpr ⟨entry, hentry, hother⟩)
        rw [hmissing, Option.join_none, Option.or_none, Option.join_some]
      · rw [Option.none_or]

/-- A name has the value that it had, or the one that the bindings give to it. -/
theorem get?_of_extend?
    {statements : List (Nat × Statement)} (hextend : extend? environment statements = some later) :
    later.get? name = some value ↔
      environment.get? name = some value ∨
        environment.get? name = none ∧ Gives environment (bindings statements) name value := by
  rw [get?_of_foldlM_give? (nodup_keys_resolve _ _) hextend, ← lookup_resolve_eq_some_iff,
    ← Option.join_eq_some_iff]
  cases environment.get? name <;> simp

end EnvFile
end ActorManifest
