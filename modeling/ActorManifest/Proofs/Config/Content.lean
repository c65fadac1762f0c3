import ActorManifest.Proofs.Config.Environment
import ActorManifest.Proofs.Config.Settings
import ActorManifest.Proofs.Document.Order
import ActorManifest.Proofs.Yaml.Loading

/-!
# Settings by the content of their file

Where no variable overrides the level and no file of variables is named, the content of its file
decides what the configuration is.  Reading it breaks off on octets that are no text, on a value
that YAML does not admit, on a level that has no text, and on unknown keys that cannot be listed.
All else is read or found fault with, but what counts as nothing is taken for no settings at all,
be it a mapping or not.
-/

namespace ActorManifest

theorem Scalar.isShort_iff {s : Scalar} : s.IsShort ↔ ∃ t, s.shown? = some t := by
  refine ⟨exists_shown?, ?_⟩
  rintro ⟨t, ht⟩ n rfl
  rw [shown?, integerText?] at ht
  split at ht
  · rename_i hn
    exact hn
  · cases ht

theorem Document.depthOfItems_map_scalar (scalars : List Scalar) :
    depthOfItems (scalars.map .scalar) = 0 := by
  induction scalars with
  | nil => rfl
  | cons s rest ih => simp [depthOfItems, depth, ih]

/-- A list of scalars is shown if and only if each of them is. -/
theorem Document.exists_shown_list_iff [Machine] {scalars : List Scalar} :
    (∃ t, (list (scalars.map .scalar)).shown = .ok t) ↔ ∀ s ∈ scalars, s.IsShort := by
  obtain ⟨room, hroom⟩ := Nat.exists_eq_add_one.mpr
    (Nat.lt_of_lt_of_le (by decide) Machine.le_shownLevels)
  constructor
  · rintro ⟨t, ht⟩
    rw [shown, hroom, shownWithin] at ht
    obtain ⟨parts, hparts, -⟩ := map_eq_ok_iff.mp ht
    clear ht
    induction scalars generalizing parts with
    | nil => exact List.forall_mem_nil _
    | cons s rest ih =>
        simp only [List.map_cons, shownItems, shownWithin, bind_eq_ok_iff] at hparts
        obtain ⟨found, hfound, others, hothers, -⟩ := hparts
        have hs := Scalar.isShort_iff.mpr ⟨found, ofText?_eq_ok_iff.mp hfound⟩
        exact List.forall_mem_cons.mpr ⟨hs, ih others hothers⟩
  · intro hall
    have hshort : (list (scalars.map .scalar)).IsShort :=
      .list (List.forall_mem_map.mpr fun s hs => .scalar (hall s hs))
    refine exists_shownWithin hshort ?_ []
    rw [depth, depthOfItems_map_scalar, hroom]
    exact Nat.le_add_left 1 room

namespace Config

variable {entries : DocumentEntries} {t : Text} {c : Config}

/-! ## Outcomes that are broken off -/

/-- The outcome of reading is broken off under a condition, and otherwise it is a result or a fault
that was found. -/
inductive IsBrokenBy {α : Type} (condition : Prop) : Except ConfigFailure α → Prop
  | broken {cause : Breakdown} (hcondition : condition) :
      IsBrokenBy condition (.error (.broken cause))
  | faulty {fault : ConfigFault} (hcondition : ¬condition) :
      IsBrokenBy condition (.error (.invalid fault))
  | read {a : α} (hcondition : ¬condition) : IsBrokenBy condition (.ok a)

namespace IsBrokenBy

variable {α β : Type} {condition next : Prop} {outcome : Except ConfigFailure α}

theorem of_iff (hbroken : IsBrokenBy condition outcome) (hiff : condition ↔ next) :
    IsBrokenBy next outcome :=
  propext hiff ▸ hbroken

/-- A second step that is never broken off changes nothing about the first. -/
theorem bind
    {f : α → Except ConfigFailure β} (hfirst : IsBrokenBy condition outcome)
    (hsecond : ∀ a, IsBrokenBy False (f a)) : IsBrokenBy condition (outcome >>= f) := by
  cases hfirst with
  | broken hcondition => exact .broken hcondition
  | faulty hcondition => exact .faulty hcondition
  | @read a hcondition => exact (hsecond a).of_iff (iff_of_false id hcondition)

end IsBrokenBy

/-! ## Mappings -/

/-- The keys have no order, or one of them is a number that is too long to be shown. -/
def CannotBeListed (keys : List Scalar) : Prop :=
  ¬Scalar.AreOrdered keys ∨ ∃ key ∈ keys, ¬key.IsShort

theorem not_cannotBeListed_nil : ¬CannotBeListed [] := by
  rintro (hunordered | ⟨key, hkey, -⟩)
  · exact hunordered (.inl (Nat.zero_le 1))
  · cases hkey

theorem isBrokenBy_refuseKeys [Machine] {α : Type} (keys : List Scalar) :
    IsBrokenBy (CannotBeListed keys)
      (.error (refuseKeys (keys.map .scalar)) : Except ConfigFailure α) := by
  unfold refuseKeys
  cases hsort : Document.sortKeys? (keys.map .scalar) with
  | none =>
      refine .broken (.inl fun hordered => ?_)
      obtain ⟨sorted, hsorted, -⟩ := Document.exists_sortKeys?_of_areOrdered hordered
      rw [hsort] at hsorted
      cases hsorted
  | some found =>
      have hordered := Document.areOrdered_of_sortKeys? hsort
      obtain ⟨sorted, hsorted, hperm⟩ := Document.exists_sortKeys?_of_areOrdered hordered
      cases hsort.symm.trans hsorted
      have hshort : (∃ t, (Document.list (sorted.map .scalar)).shown = .ok t) ↔
          ∀ key ∈ keys, key.IsShort := by
        simp only [Document.exists_shown_list_iff, hperm.mem_iff]
      dsimp only
      cases hshown : (Document.list (sorted.map .scalar)).shown with
      | error fault =>
          rw [hshown] at hshort
          exact .broken (.inr (by simpa using hshort))
      | ok shown =>
          have hall := hshort.mp ⟨shown, hshown⟩
          refine .faulty ?_
          rintro (hunordered | ⟨key, hkey, hlong⟩)
          · exact hunordered hordered
          · exact hlong (hall key hkey)

/-- The document has no text, for a number in it that is too long, or for its levels. -/
def HasNoText [Machine] (d : Document) : Prop :=
  ∃ fault, d.toText = .error fault

theorem isBrokenBy_readLevel [Machine] (d : Document) :
    IsBrokenBy (HasNoText d) (readLevel d) := by
  unfold readLevel HasNoText
  cases d.toText with
  | error fault => exact .broken ⟨fault, rfl⟩
  | ok t =>
      simp only [Except.mapError, bind, Except.bind]
      cases levelOf t with
      | error level => exact .faulty (by simp)
      | ok level => exact .read (by simp)

/-- A mapping gives a level that has no text. -/
def HasUnreadableLevel [Machine] (entries : DocumentEntries) : Prop :=
  ∃ d, lookup? "log_level" entries = some d ∧ HasNoText d

theorem isBrokenBy_ofEntries [Machine] (entries : DocumentEntries) :
    IsBrokenBy (HasUnreadableLevel entries) (ofEntries entries) := by
  have hlevel : HasNoText ((lookup? "log_level" entries).getD (.text standard.logLevel.name)) ↔
      HasUnreadableLevel entries := by
    unfold HasUnreadableLevel
    cases lookup? "log_level" entries with
    | none => simp [HasNoText, Document.toText, Document.ofText?, Scalar.text?]
    | some d => simp
  refine ((isBrokenBy_readLevel _).of_iff hlevel).bind fun level => ?_
  dsimp only
  split
  · exact .faulty id
  · exact .read id

/-- Reading a mapping breaks off on its unknown keys, or else on its level. -/
def MappingBreaksOff [Machine] (entries : DocumentEntries) : Prop :=
  CannotBeListed (unknownKeys entries) ∨
    (∀ entry ∈ entries, IsName entry.1) ∧ HasUnreadableLevel entries

theorem isBrokenBy_ofMapping [Machine] (entries : DocumentEntries) :
    IsBrokenBy (MappingBreaksOff entries) (ofMapping entries) := by
  unfold MappingBreaksOff ofMapping
  rw [← unknownKeys_eq_nil_iff]
  split
  · rename_i hkeys
    refine (isBrokenBy_ofEntries entries).of_iff ?_
    simp [hkeys, not_cannotBeListed_nil]
  · rename_i hkeys
    refine (isBrokenBy_refuseKeys (unknownKeys entries)).of_iff ?_
    simp [hkeys]

/-! ## Texts and contents of files -/

/-- Reading a text breaks off on a value, or on its mapping. -/
inductive TextBreaksOff [Machine] (t : Text) : Prop
  /-- A value is none, or values are nested too deeply. -/
  | value {fault : Yaml.Fault} (hread : Yaml.read t = .error fault)
      (hvalue : fault.isSyntax = false)
  | mapping {entries : DocumentEntries} (hholds : Holds (·.isEmpty = true) t entries)
      (hbreaks : MappingBreaksOff entries)

theorem isBrokenBy_ofText [Machine] (t : Text) : IsBrokenBy (TextBreaksOff t) (ofText t) := by
  rcases ofText_cases t with
    ⟨fault, hread, htext⟩ | ⟨hnone, ⟨d, hread⟩, htext⟩ | ⟨entries, hholds, htext⟩
  · rw [htext, failureOf]
    split
    · rename_i hsyn
      refine .faulty ?_
      rintro (⟨hfault, hvalue⟩ | ⟨⟨d, hd, -⟩, -⟩)
      · cases hread.symm.trans hfault
        rw [hsyn] at hvalue
        cases hvalue
      · rw [hread] at hd
        cases hd
    · rename_i hvalue
      exact .broken (.value hread (by simpa using hvalue))
  · rw [htext]
    refine .faulty ?_
    rintro (⟨hfault, -⟩ | ⟨hholds, -⟩)
    · rw [hread] at hfault
      cases hfault
    · exact hnone ⟨_, hholds⟩
  · rw [htext]
    refine (isBrokenBy_ofMapping entries).of_iff ⟨.mapping hholds, ?_⟩
    rintro (⟨hfault, -⟩ | ⟨hother, hbreaks⟩)
    · obtain ⟨d, hread, -⟩ := hholds
      rw [hread] at hfault
      cases hfault
    · rw [hholds.unique hother]
      exact hbreaks

/-- Only a file that is not there is missing. -/
theorem readFile_eq_missing_iff [Machine] {files : FileTree} {p q : Path} :
    readFile files p = .error (.missing q) ↔ files.holds p = .ok false ∧ q = p := by
  unfold readFile
  cases files.holds p with
  | error fault => simp [Except.mapError, bind, Except.bind]
  | ok held =>
      cases held with
      | false => simp [Except.mapError, bind, Except.bind, throw, throwThe, MonadExceptOf.throw,
          eq_comm]
      | true =>
          cases files.readText p with
          | error fault => simp [Except.mapError, bind, Except.bind]
          | ok t =>
              have hbroken := isBrokenBy_ofText t
              simp only [Except.mapError, bind, Except.bind, if_true]
              refine iff_of_false (fun hmissing => ?_) (by simp)
              rw [hmissing] at hbroken
              cases hbroken

/-- The settings in the content of a file. -/
def ofContent [Machine] (content : List UInt8) : Except ConfigFailure Config := do
  ofText (← (Utf8.decode content).mapError fun fault => .broken (.encoding fault)).unifyLineBreaks

theorem readFile_of_entry [Machine]
    {files : FileTree} {p : Path} {content : List UInt8}
    (hentry : files.entry p = .ok (.file content)) : readFile files p = ofContent content := by
  have hheld : files.holds p = .ok true := by
    rw [FileTree.holds, hentry]
  unfold readFile ofContent
  rw [hheld, FileTree.readText_of_entry hentry]
  cases Utf8.decode content <;> rfl

/-- The content of the file is text that has the entries of its mapping, or none where it holds
what counts as nothing. -/
def ContentHolds [Machine]
    (nothing : Document → Prop) (content : List UInt8) (entries : DocumentEntries) :
    Prop :=
  ∃ t, Utf8.decode content = .ok t ∧ Holds nothing t.unifyLineBreaks entries

/-- A file has the entries of one mapping at most. -/
theorem ContentHolds.unique [Machine]
    {content : List UInt8} {entries other : DocumentEntries}
    (hholds : ContentHolds (·.isEmpty = true) content entries)
    (hother : ContentHolds (·.isEmpty = true) content other) : entries = other := by
  obtain ⟨t, hdecode, ht⟩ := hholds
  obtain ⟨found, hfound, hread⟩ := hother
  cases hdecode.symm.trans hfound
  exact ht.unique hread

section

variable {host : Host} {p : Path} {content : List UInt8}

end

end Config
end ActorManifest
