import ActorManifest.Host.FileTree
import ActorManifest.Proofs.Entries
import ActorManifest.Proofs.Outcome

/-!
# Files that stay

Making directories and writing a new file leave everything where it is.  What a path leads to is
then still there, since whatever stands on the way to it has stayed as well.
-/

namespace ActorManifest

theorem Text.exists_join_append_singleton (separator : Text) (pieces : List Text) (piece : Text) :
    ∃ more, join separator (pieces ++ [piece]) = join separator pieces ++ more := by
  induction pieces with
  | nil => exact ⟨piece, rfl⟩
  | cons first rest ih =>
      cases rest with
      | nil => exact ⟨separator ++ piece, by simp [join]⟩
      | cons next rest =>
          obtain ⟨more, hmore⟩ := ih
          refine ⟨more, ?_⟩
          simp only [List.cons_append, join] at hmore ⊢
          rw [hmore, List.append_assoc (first ++ separator)]

/-- The text of a path goes on with one more name, unless it is that of the working directory. -/
theorem Path.exists_text_append_singleton (p : Path) (name : Text) :
    p.text = "." ∨ ∃ more, (p.append [name]).text = p.text ++ more := by
  obtain ⟨start, names⟩ := p
  obtain ⟨more, hmore⟩ := Text.exists_join_append_singleton [separator] names name
  have htext : (Path.append ⟨start, names⟩ [name]).text =
      start.text ++ Text.join [separator] (names ++ [name]) := by
    unfold text append
    split
    · rename_i hnames
      simp at hnames
    · rfl
  rw [htext, hmore]
  unfold text
  split
  · exact .inl rfl
  · exact .inr ⟨more, (List.append_assoc _ _ _).symm⟩

namespace FileTree

/-- Whatever stands somewhere still stands there later. -/
structure Keeps (files later : FileTree) : Prop where
  workingDirectory : later.workingDirectory = files.workingDirectory
  at? : ∀ place entry, files.at? place = some entry → later.at? place = some entry

/-- Whatever stands somewhere still stands there later, and all that is new are directories. -/
structure OnlyAddsDirectories (files later : FileTree) : Prop extends files.Keeps later where
  isOld : ∀ place content,
    later.at? place = some (.file content) → files.at? place = some (.file content)

theorem Keeps.refl (files : FileTree) : files.Keeps files :=
  ⟨rfl, fun _ _ hentry => hentry⟩

theorem Keeps.trans {a b c : FileTree} (hab : a.Keeps b) (hbc : b.Keeps c) : a.Keeps c where
  workingDirectory := hbc.workingDirectory.trans hab.workingDirectory
  at? place entry hentry := hbc.at? place entry (hab.at? place entry hentry)

theorem OnlyAddsDirectories.refl (files : FileTree) : files.OnlyAddsDirectories files where
  toKeeps := .refl files
  isOld _ _ hfile := hfile

theorem OnlyAddsDirectories.trans {a b c : FileTree} (hab : a.OnlyAddsDirectories b)
    (hbc : b.OnlyAddsDirectories c) : a.OnlyAddsDirectories c where
  toKeeps := hab.toKeeps.trans hbc.toKeeps
  isOld place content hfile := hab.isOld place content (hbc.isOld place content hfile)

/-! ## New entries -/

variable {files later : FileTree} {p : Path}

theorem at?_put {place : Location} (hplace : place ≠ []) (other : Location) (entry : FileEntry) :
    (files.put place entry).at? other = if other = place then some entry else files.at? other := by
  cases other with
  | nil => rw [if_neg (Ne.symm hplace)]; rfl
  | cons name names => exact Entries.lookup_put place (name :: names) entry

theorem ne_nil_of_at?_eq_none {place : Location} (hat : files.at? place = none) :
    place ≠ [] := by
  rintro rfl
  cases hat

theorem keeps_put {place : Location} {entry : FileEntry} (hnew : files.at? place = none) :
    files.Keeps (files.put place entry) where
  workingDirectory := rfl
  at? other old hold := by
    have hplace : place ≠ [] := ne_nil_of_at?_eq_none hnew
    rw [at?_put hplace, if_neg]
    · exact hold
    · rintro rfl
      rw [hnew] at hold
      cases hold

theorem onlyAddsDirectories_makeDirectory (hmake : files.makeDirectory p = .ok later) :
    files.OnlyAddsDirectories later := by
  unfold makeDirectory at hmake
  cases hlocate : files.locate p with
  | error fault =>
      rw [hlocate] at hmake
      cases hmake
  | ok place =>
      rw [hlocate] at hmake
      cases hat : files.at? place with
      | some entry =>
          simp only [hat, bind, Except.bind] at hmake
          cases hmake
      | none =>
          simp only [hat, bind, Except.bind, pure, Except.pure, Except.ok.injEq] at hmake
          subst hmake
          refine ⟨keeps_put hat, ?_⟩
          intro other content hfile
          rw [at?_put (ne_nil_of_at?_eq_none hat)] at hfile
          split at hfile
          · cases hfile
          · exact hfile

theorem onlyAddsDirectories_ensureDirectory (hmake : files.ensureDirectory p = .ok later) :
    files.OnlyAddsDirectories later := by
  unfold ensureDirectory at hmake
  split at hmake
  · split at hmake
    · cases hmake
      exact .refl files
    · cases hmake
  · rename_i made hmade
    cases hmake
    exact onlyAddsDirectories_makeDirectory hmade

theorem onlyAddsDirectories_attempted
    {result : Except FileFault FileTree}
    (hresult : ∀ later, result = .ok later → files.OnlyAddsDirectories later) :
    files.OnlyAddsDirectories (files.attempted result).1 := by
  cases result with
  | ok later => exact hresult later rfl
  | error fault => exact .refl files

theorem onlyAddsDirectories_ensureDirectories
    (files : FileTree) (start : PathStart) (names : List Text) :
    files.OnlyAddsDirectories (ensureDirectories start files names).1 := by
  induction names generalizing files with
  | nil =>
      exact onlyAddsDirectories_attempted fun _ hmake =>
        onlyAddsDirectories_ensureDirectory hmake
  | cons name above ih =>
      unfold ensureDirectories
      split
      · split
        · rename_i made habove
          have hmade := ih files
          rw [habove] at hmade
          refine hmade.trans (onlyAddsDirectories_attempted ?_)
          exact fun _ hmake => onlyAddsDirectories_ensureDirectory hmake
        · exact ih files
      · exact onlyAddsDirectories_attempted fun _ hmake =>
          onlyAddsDirectories_ensureDirectory hmake

theorem onlyAddsDirectories_makeDirectories (files : FileTree) (p : Path) :
    files.OnlyAddsDirectories (files.makeDirectories p).1 := by
  unfold makeDirectories
  split
  · have hways := onlyAddsDirectories_ensureDirectories files p.start p.names.dropLast.reverse
    split
    · rename_i made habove
      rw [habove] at hways
      refine hways.trans (onlyAddsDirectories_attempted ?_)
      exact fun _ hmake => onlyAddsDirectories_makeDirectory hmake
    · exact hways
  · exact onlyAddsDirectories_attempted fun _ hmake => onlyAddsDirectories_makeDirectory hmake

/-! ## Paths that stay -/

/-- Directories are still directories later. -/
structure KeepsDirectories (files later : FileTree) : Prop where
  workingDirectory : later.workingDirectory = files.workingDirectory
  at? : ∀ place, files.at? place = some .directory → later.at? place = some .directory

theorem Keeps.keepsDirectories (hkeeps : files.Keeps later) : files.KeepsDirectories later where
  workingDirectory := hkeeps.workingDirectory
  at? place hplace := hkeeps.at? place .directory hplace

theorem follow_cons_eq_ok_iff
    {place found : Location} {name : Text} {names : List Text} :
    files.follow place (name :: names) = .ok found ↔
      files.at? place = some .directory ∧ (nameLength? name).getD 0 ≤ maxNameLength ∧
        files.follow (enter place name) names = .ok found := by
  rw [follow]
  cases files.at? place with
  | none => simp
  | some entry =>
      cases entry with
      | file content => simp
      | directory =>
          dsimp only
          split
          · rename_i hlong
            simp [Nat.not_le.mpr hlong]
          · rename_i hshort
            simp [Nat.not_lt.mp hshort]

theorem follow_of_keepsDirectories
    (hkeeps : files.KeepsDirectories later) {place found : Location} {names : List Text}
    (hfollow : files.follow place names = .ok found) : later.follow place names = .ok found := by
  induction names generalizing place with
  | nil => exact hfollow
  | cons name names ih =>
      obtain ⟨hat, hshort, hrest⟩ := follow_cons_eq_ok_iff.mp hfollow
      exact follow_cons_eq_ok_iff.mpr ⟨hkeeps.at? place hat, hshort, ih hrest⟩

/-- The text of a path can be given to the system. -/
def IsPathText (t : Text) : Prop :=
  ∃ length, nameLength? t = some length ∧ CodePoint.char '\x00' ∉ t ∧ length < pathLimit

theorem locate_eq_ok_iff {place : Location} :
    files.locate p = .ok place ↔
      IsPathText p.text ∧ files.follow (files.startPlace p.start) p.names = .ok place := by
  unfold locate IsPathText
  cases nameLength? p.text with
  | none => simp
  | some length =>
      simp only [List.contains_iff_mem, Option.some.injEq, exists_eq_left']
      split
      · rename_i hnull
        simp [hnull]
      · rename_i hnull
        split
        · rename_i hlong
          simp [Nat.not_lt.mpr hlong]
        · rename_i hshort
          simp [hnull, Nat.not_le.mp hshort]

theorem locate_of_keepsDirectories
    (hkeeps : files.KeepsDirectories later) {place : Location}
    (hlocate : files.locate p = .ok place) : later.locate p = .ok place := by
  have hstart : later.startPlace p.start = files.startPlace p.start := by
    cases p.start with
    | workingDirectory => exact hkeeps.workingDirectory
    | root | doubleRoot => rfl
  obtain ⟨htext, hfollow⟩ := locate_eq_ok_iff.mp hlocate
  rw [locate_eq_ok_iff, hstart]
  exact ⟨htext, follow_of_keepsDirectories hkeeps hfollow⟩

theorem locate_of_keeps
    (hkeeps : files.Keeps later) {place : Location} (hlocate : files.locate p = .ok place) :
    later.locate p = .ok place :=
  locate_of_keepsDirectories hkeeps.keepsDirectories hlocate

theorem entry_eq_ok_iff {entry : FileEntry} :
    files.entry p = .ok entry ↔ ∃ place, files.locate p = .ok place ∧
      files.at? place = some entry := by
  unfold FileTree.entry
  cases hlocate : files.locate p with
  | error fault => simp [bind, Except.bind]
  | ok place =>
      cases hat : files.at? place with
      | none => simp [hat, bind, Except.bind, throw, throwThe, MonadExceptOf.throw]
      | some found => simp [hat, bind, Except.bind, pure, Except.pure]

theorem entry_of_keeps
    (hkeeps : files.Keeps later) {entry : FileEntry} (hentry : files.entry p = .ok entry) :
    later.entry p = .ok entry := by
  obtain ⟨place, hlocate, hat⟩ := entry_eq_ok_iff.mp hentry
  exact entry_eq_ok_iff.mpr ⟨place, locate_of_keeps hkeeps hlocate, hkeeps.at? place entry hat⟩

theorem holds_eq_true_iff : files.holds p = .ok true ↔ ∃ entry, files.entry p = .ok entry := by
  unfold holds
  cases files.entry p with
  | ok entry => simp
  | error fault => cases fault <;> simp

theorem holds_of_keeps (hkeeps : files.Keeps later) (hholds : files.holds p = .ok true) :
    later.holds p = .ok true := by
  obtain ⟨entry, hentry⟩ := holds_eq_true_iff.mp hholds
  exact holds_eq_true_iff.mpr ⟨entry, entry_of_keeps hkeeps hentry⟩

theorem isFile_eq_true_iff :
    files.isFile p = true ↔ ∃ content, files.entry p = .ok (.file content) := by
  unfold isFile
  split
  · rename_i content hentry
    simp [hentry]
  · rename_i hnone
    exact iff_of_false Bool.false_ne_true fun ⟨content, hentry⟩ => hnone content hentry

/-- The text of a file is what its octets are decoded to, with one sign for every line break. -/
theorem readText_of_entry {content : List UInt8} (hentry : files.entry p = .ok (.file content)) :
    files.readText p = ((Utf8.decode content).mapError .encoding).map Text.unifyLineBreaks := by
  simp only [readText, read, hentry, bind, Except.bind, pure, Except.pure, Except.mapError]
  cases Utf8.decode content <;> rfl

theorem isFile_of_readText {t : Text} (htext : files.readText p = .ok t) :
    files.isFile p = true := by
  rw [readText, bind_eq_ok_iff] at htext
  obtain ⟨content, hread, -⟩ := htext
  rw [mapError_eq_ok_iff, read, bind_eq_ok_iff] at hread
  obtain ⟨entry, hentry, hcontent⟩ := hread
  cases entry with
  | directory => cases hcontent
  | file found => exact isFile_eq_true_iff.mpr ⟨found, hentry⟩

/-! ## New files -/

/-- A file that is written where nothing was leaves everything else as it is, and it is found
where it was written. -/
theorem exists_place_of_write
    {content : List UInt8} (hnew : files.holds p = .ok false)
    (hwrite : files.write p content = .ok later) :
    ∃ place, later.locate p = .ok place ∧ files.at? place = none ∧ files.Keeps later ∧
      later.at? place = some (.file content) ∧
      ∀ other, other ≠ place → later.at? other = files.at? other := by
  unfold write at hwrite
  cases hlocate : files.locate p with
  | error fault =>
      rw [hlocate] at hwrite
      cases hwrite
  | ok place =>
      have hat : files.at? place = none := by
        cases hat : files.at? place with
        | none => rfl
        | some entry =>
            have htrue := holds_eq_true_iff.mpr ⟨entry, entry_eq_ok_iff.mpr ⟨place, hlocate, hat⟩⟩
            rw [hnew] at htrue
            cases htrue
      simp only [hlocate, hat, bind, Except.bind, pure, Except.pure, Except.ok.injEq] at hwrite
      subst hwrite
      have hplace : place ≠ [] := ne_nil_of_at?_eq_none hat
      have hkeeps : files.Keeps (files.put place (.file content)) := keeps_put hat
      refine ⟨place, locate_of_keeps hkeeps hlocate, hat, hkeeps, ?_, ?_⟩
      · rw [at?_put hplace, if_pos rfl]
      · intro other hother
        rw [at?_put hplace, if_neg hother]

/-! ## Files that are written over -/

/-- A file is put where a file was: every directory stays. -/
theorem keepsDirectories_put
    {place : Location} {old content : List UInt8} (hold : files.at? place = some (.file old)) :
    files.KeepsDirectories (files.put place (.file content)) where
  workingDirectory := rfl
  at? other hother := by
    have hplace : place ≠ [] := by
      rintro rfl
      cases hold
    rw [at?_put hplace, if_neg]
    · exact hother
    · rintro rfl
      rw [hold] at hother
      cases hother

/-- Writing over a file succeeds.  The file then has the new content, and all else is as it was. -/
theorem exists_write_of_entry
    {old : List UInt8} (hentry : files.entry p = .ok (.file old)) (content : List UInt8) :
    ∃ later, files.write p content = .ok later ∧ later.entry p = .ok (.file content) ∧
      ∀ other, files.locate p ≠ .ok other → later.at? other = files.at? other := by
  obtain ⟨place, hlocate, hat⟩ := entry_eq_ok_iff.mp hentry
  have hplace : place ≠ [] := by
    rintro rfl
    cases hat
  refine ⟨files.put place (.file content), ?_, entry_eq_ok_iff.mpr ⟨place, ?_, ?_⟩, ?_⟩
  · simp only [write, hlocate, hat, bind, Except.bind, pure, Except.pure]
  · exact locate_of_keepsDirectories (keepsDirectories_put hat) hlocate
  · rw [at?_put hplace, if_pos rfl]
  · intro other hother
    rw [at?_put hplace, if_neg]
    rintro rfl
    exact hother hlocate

/-! ## The directory of a file -/

theorem le_foldl_add (lengths : List Nat) (length : Nat) :
    length ≤ lengths.foldl (· + ·) length := by
  induction lengths generalizing length with
  | nil => exact Nat.le_refl length
  | cons first rest ih => exact Nat.le_trans (Nat.le_add_right length first) (ih _)

theorem exists_nameLength?_of_append
    {t more : Text} {length : Nat} (hlength : nameLength? (t ++ more) = some length) :
    ∃ shorter, nameLength? t = some shorter ∧ shorter ≤ length := by
  unfold nameLength? at hlength ⊢
  rw [Option.map_eq_some_iff] at hlength
  obtain ⟨lengths, hmap, rfl⟩ := hlength
  rw [List.mapM_append] at hmap
  cases hfirst : t.mapM nameOctets? with
  | none =>
      rw [hfirst] at hmap
      cases hmap
  | some first =>
      rw [hfirst] at hmap
      cases hrest : more.mapM nameOctets? with
      | none =>
          rw [hrest] at hmap
          cases hmap
      | some rest =>
          rw [hrest] at hmap
          cases hmap
          refine ⟨first.foldl (· + ·) 0, rfl, ?_⟩
          rw [List.foldl_append]
          exact le_foldl_add _ _

theorem isPathText_of_append {t more : Text} (htext : IsPathText (t ++ more)) : IsPathText t := by
  obtain ⟨length, hlength, hnull, hlimit⟩ := htext
  obtain ⟨shorter, hshorter, hle⟩ := exists_nameLength?_of_append hlength
  exact ⟨shorter, hshorter, fun hmem => hnull (List.mem_append_left _ hmem), by omega⟩

theorem isPathText_of_append_name
    {name : Text} (htext : IsPathText (p.append [name]).text) : IsPathText p.text := by
  rcases p.exists_text_append_singleton name with hdot | ⟨more, hmore⟩
  · rw [hdot]
    exact ⟨1, by decide, by decide, by decide⟩
  · rw [hmore] at htext
    exact isPathText_of_append htext

theorem follow_append
    {place found : Location} {names : List Text} {name : Text}
    (hfollow : files.follow place (names ++ [name]) = .ok found) :
    ∃ directory, files.follow place names = .ok directory ∧
      files.at? directory = some .directory := by
  induction names generalizing place with
  | nil => exact ⟨place, rfl, (follow_cons_eq_ok_iff.mp hfollow).1⟩
  | cons first names ih =>
      obtain ⟨hat, hshort, hrest⟩ := follow_cons_eq_ok_iff.mp hfollow
      obtain ⟨directory, hdirectory, hfound⟩ := ih hrest
      exact ⟨directory, follow_cons_eq_ok_iff.mpr ⟨hat, hshort, hdirectory⟩, hfound⟩

/-- What stands at a path stands in a directory. -/
theorem entry_of_append
    {name : Text} {entry : FileEntry} (hentry : files.entry (p.append [name]) = .ok entry) :
    files.entry p = .ok .directory := by
  obtain ⟨place, hlocate, -⟩ := entry_eq_ok_iff.mp hentry
  obtain ⟨htext, hfollow⟩ := locate_eq_ok_iff.mp hlocate
  obtain ⟨directory, hdirectory, hat⟩ := follow_append hfollow
  refine entry_eq_ok_iff.mpr ⟨directory, ?_, hat⟩
  exact locate_eq_ok_iff.mpr ⟨isPathText_of_append_name htext, hdirectory⟩

end FileTree
end ActorManifest
