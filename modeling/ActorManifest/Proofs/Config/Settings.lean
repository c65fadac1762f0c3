import ActorManifest.Config.Loading
import ActorManifest.Proofs.Schema

/-!
# The settings of a mapping

A mapping gives settings if all its keys name one, its level is one in letters of either case, and
its namespace does not count as nothing.  What it leaves out is standard.  A text gives what its
mapping gives, and the standard settings where it holds nothing.
-/

namespace ActorManifest

/-- A level is known by its name and by nothing else. -/
theorem LogLevel.ofName?_eq_some_iff {t : Text} {level : LogLevel} :
    ofName? t = some level ↔ Text.ofString level.name = t := by
  constructor
  · intro hlevel
    simpa using List.find?_some hlevel
  · rintro rfl
    cases level <;> decide

namespace Config

variable {entries : DocumentEntries} {d : Document} {c : Config} {t : Text}

theorem levelOf_eq_ok_iff {level : LogLevel} :
    levelOf t = .ok level ↔ Text.ofString level.name = t.upper := by
  rw [levelOf, ← LogLevel.ofName?_eq_some_iff]
  cases LogLevel.ofName? t.upper <;> simp

theorem readLevel_eq_ok_iff [Machine] {level : LogLevel} :
    readLevel d = .ok level ↔ ∃ t, d.toText = .ok t ∧ Text.ofString level.name = t.upper := by
  simp only [readLevel, bind_eq_ok_iff, mapError_eq_ok_iff, levelOf_eq_ok_iff]

/-- The key is the name of a setting. -/
def IsName (key : Scalar) : Prop :=
  ∃ name ∈ names, key = .text name

theorem isKnown_eq_true_iff {key : Scalar} : isKnown (.scalar key) = true ↔ IsName key := by
  cases key with
  | text t => simp [isKnown, IsName, eq_comm (a := t)]
  | null | bool b | int n | float x | bytes octets | date d | time t => simp [isKnown, IsName]

/-- The settings are those that the entries of a mapping give, and standard where the entries give
none.  No entry is anything but a setting. -/
structure IsGivenBy [Machine] (entries : DocumentEntries) (c : Config) : Prop where
  keys : ∀ entry ∈ entries, IsName entry.1
  defaultPath : c.defaultPath = (lookup? "default_path" entries).getD standard.defaultPath
  space : c.space = (lookup? "namespace" entries).getD standard.space
  logLevel : ∃ t,
    ((lookup? "log_level" entries).getD (.text standard.logLevel.name)).toText = .ok t ∧
      Text.ofString c.logLevel.name = t.upper
  envFile : c.envFile = (lookup? "env_file" entries).getD standard.envFile

theorem ofEntries_eq_ok_iff [Machine] (hkeys : ∀ entry ∈ entries, IsName entry.1) :
    ofEntries entries = .ok c ↔ c.IsGivenBy entries := by
  unfold ofEntries
  simp only [bind_eq_ok_iff, readLevel_eq_ok_iff]
  constructor
  · rintro ⟨level, hlevel, hconfig⟩
    split at hconfig
    · cases hconfig
    · cases hconfig
      exact ⟨hkeys, rfl, rfl, hlevel, rfl⟩
  · rintro ⟨-, hpath, hspace, hlevel, hfile⟩
    refine ⟨c.logLevel, hlevel, ?_⟩
    have hfilled := c.spaceFilled
    rw [hspace] at hfilled
    rw [dif_neg (by rw [hfilled]; exact Bool.false_ne_true)]
    obtain ⟨defaultPath, space, logLevel, envFile, spaceFilled⟩ := c
    cases hpath
    cases hspace
    cases hfile
    rfl

theorem keysOf?_of_entries? (hentries : d.entries? = some entries) :
    keysOf? d = some (entries.map fun entry => .scalar entry.1) := by
  unfold Document.entries? at hentries
  unfold keysOf?
  split at hentries
  · rename_i found hopened
    cases hentries
    rw [hopened]
  · cases hentries

/-- The keys of a mapping that name no setting. -/
def unknownKeys (entries : DocumentEntries) : List Scalar :=
  (entries.map Prod.fst).filter fun key => !isKnown (.scalar key)

theorem unknownKeys_eq_nil_iff : unknownKeys entries = [] ↔ ∀ entry ∈ entries, IsName entry.1 := by
  simp only [unknownKeys, List.filter_eq_nil_iff, List.forall_mem_map, Bool.not_eq_true',
    Bool.not_eq_false, isKnown_eq_true_iff]

/-- The settings of a mapping with some entries. -/
def ofMapping [Machine] (entries : DocumentEntries) : Except ConfigFailure Config :=
  if unknownKeys entries = [] then ofEntries entries
  else .error (refuseKeys ((unknownKeys entries).map .scalar))

/-- Settings are read from a mapping by its entries alone. -/
theorem ofDocument_eq [Machine] (hentries : d.entries? = some entries) :
    ofDocument d = ofMapping entries := by
  have hunknown : (entries.map fun entry => Document.scalar entry.1).filter
      (fun key => !isKnown key) = (unknownKeys entries).map .scalar := by
    rw [unknownKeys, List.filter_map, List.filter_map, List.map_map]
    rfl
  unfold ofDocument ofMapping
  rw [keysOf?_of_entries? hentries, hentries]
  dsimp only
  rw [hunknown]
  cases unknownKeys entries with
  | nil => rw [List.map_nil, if_pos rfl]
  | cons key rest => rw [List.map_cons, if_neg (List.cons_ne_nil key rest)]

theorem ofMapping_eq_ok_iff [Machine] : ofMapping entries = .ok c ↔ c.IsGivenBy entries := by
  unfold ofMapping
  split
  · rename_i hkeys
    exact ofEntries_eq_ok_iff (unknownKeys_eq_nil_iff.mp hkeys)
  · rename_i hkeys
    refine ⟨nofun, fun hgiven => ?_⟩
    exact absurd (unknownKeys_eq_nil_iff.mpr hgiven.keys) hkeys

/-! ## Texts -/

/-- The text has the entries of its mapping, or none where it holds what counts as nothing. -/
def Holds [Machine] (nothing : Document → Prop) (t : Text) (entries : DocumentEntries) : Prop :=
  ∃ d, Yaml.read t = .ok d ∧ (nothing d ∧ entries = [] ∨ d.entries? = some entries)

/-- The failure to load a text. -/
def failureOf (fault : Yaml.Fault) : ConfigFailure :=
  if fault.isSyntax then .invalid (.yaml fault) else .broken (.yaml fault)

/-- A text has a fault, or it holds something else than a mapping, or it is read by its entries. -/
theorem ofText_cases [Machine] (t : Text) :
    (∃ fault, Yaml.read t = .error fault ∧ ofText t = .error (failureOf fault)) ∨
      (¬(∃ entries, Holds (·.isEmpty = true) t entries) ∧ (∃ d, Yaml.read t = .ok d) ∧
        ofText t = .error (.invalid .notMapping)) ∨
      ∃ entries, Holds (·.isEmpty = true) t entries ∧ ofText t = ofMapping entries := by
  unfold ofText documentOf
  cases hread : Yaml.read t with
  | error fault =>
      refine .inl ⟨fault, rfl, ?_⟩
      unfold failureOf
      dsimp only
      split <;> rfl
  | ok d =>
      by_cases hempty : d.isEmpty = true
      · refine .inr (.inr ⟨[], ⟨d, hread, .inl ⟨hempty, rfl⟩⟩, ?_⟩)
        simp only [hempty, bind, Except.bind, if_true]
        exact ofDocument_eq (d := .mapping []) rfl
      · cases hentries : d.entries? with
        | some entries =>
            refine .inr (.inr ⟨entries, ⟨d, hread, .inr hentries⟩, ?_⟩)
            simp only [hempty, bind, Except.bind, hentries, Bool.false_eq_true, if_false,
              Option.isSome_some, if_true]
            exact ofDocument_eq hentries
        | none =>
            refine .inr (.inl ⟨?_, ⟨d, rfl⟩, ?_⟩)
            · rintro ⟨entries, found, hfound, ⟨hnothing, -⟩ | hmapping⟩
              · cases hread.symm.trans hfound
                exact hempty hnothing
              · cases hread.symm.trans hfound
                rw [hentries] at hmapping
                cases hmapping
            · simp only [hempty, bind, Except.bind, hentries, Bool.false_eq_true, if_false,
                Option.isSome_none]
              rfl

/-- A text has the entries of one mapping at most. -/
theorem Holds.unique [Machine]
    {other : DocumentEntries} (hholds : Holds (·.isEmpty = true) t entries)
    (hother : Holds (·.isEmpty = true) t other) : entries = other := by
  obtain ⟨d, hread, hd⟩ := hholds
  obtain ⟨found, hfound, hotherd⟩ := hother
  cases hread.symm.trans hfound
  rcases hd with ⟨hempty, rfl⟩ | hentries
  · rcases hotherd with ⟨-, rfl⟩ | hentries
    · rfl
    · exact (Document.entries_eq_nil_of_isEmpty hempty hentries).symm
  · rcases hotherd with ⟨hempty, rfl⟩ | hsame
    · exact Document.entries_eq_nil_of_isEmpty hempty hentries
    · exact Option.some.inj (hentries.symm.trans hsame)

theorem ofText_of_holds [Machine] (hholds : Holds (·.isEmpty = true) t entries) :
    ofText t = ofMapping entries := by
  obtain ⟨d, hread, -⟩ := id hholds
  rcases ofText_cases t with ⟨fault, hfault, -⟩ | ⟨hnone, -⟩ | ⟨other, hother, htext⟩
  · rw [hread] at hfault
    cases hfault
  · exact absurd ⟨entries, hholds⟩ hnone
  · rw [htext, hholds.unique hother]

theorem ofText_eq_ok_iff [Machine] :
    ofText t = .ok c ↔ ∃ entries, Holds (·.isEmpty = true) t entries ∧ c.IsGivenBy entries := by
  constructor
  · intro htext
    rcases ofText_cases t with ⟨fault, -, hfault⟩ | ⟨-, -, hnone⟩ | ⟨entries, hholds, hmapping⟩
    · rw [htext] at hfault
      cases hfault
    · rw [htext] at hnone
      cases hnone
    · rw [htext] at hmapping
      exact ⟨entries, hholds, ofMapping_eq_ok_iff.mp hmapping.symm⟩
  · rintro ⟨entries, hholds, hgiven⟩
    rw [ofText_of_holds hholds, ofMapping_eq_ok_iff]
    exact hgiven

end Config
end ActorManifest
