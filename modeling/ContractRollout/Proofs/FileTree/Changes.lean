import ContractRollout.FileTree.Change
import ContractRollout.Proofs.FileTree.Places

/-!
# What changes leave alone

Making directories adds directories and nothing else, and it changes nothing where the
directory is there already. Writing, renaming and removing a file change the places of
their paths and no directory. A change that fails leaves the tree as it was.
-/

namespace ContractRollout

namespace FileTree

variable {before after first second third tree : FileTree}

/-- The later tree has some new directories and is otherwise the same. -/
def Grows (before after : FileTree) : Prop :=
  ∀ place, after.entryAt place = before.entryAt place ∨
    (before.entryAt place = none ∧ after.entryAt place = some .directory)

theorem Grows.refl (tree : FileTree) : Grows tree tree := fun _ => .inl rfl

theorem Grows.trans (early : Grows first second) (late : Grows second third) :
    Grows first third := by
  intro place
  rcases late place with same | new
  · rcases early place with older | made
    · exact .inl (same.trans older)
    · exact .inr ⟨made.1, same.trans made.2⟩
  · rcases early place with older | made
    · exact .inr ⟨older.symm.trans new.1, new.2⟩
    · exact absurd (made.2.symm.trans new.1) (by simp)

theorem Grows.entryAt (grows : Grows before after) {place : Place} {entry : Entry}
    (found : before.entryAt place = some entry) : after.entryAt place = some entry := by
  rcases grows place with same | ⟨absent, -⟩
  · exact same.trans found
  · rw [found] at absent
    simp at absent

theorem Grows.keeps (grows : Grows before after) : KeepsDirectories before after :=
  fun _ directory => grows.entryAt directory

theorem grows_put_directory {place : Place} (absent : tree.entryAt place = none) :
    Grows tree (tree.put place .directory) := by
  intro other
  by_cases same : other = place
  · subst same
    have apart : tree.entryAt other ≠ some .directory := by simp [absent]
    exact .inr ⟨absent, entryAt_put_self tree (names_ne_nil apart) .directory⟩
  · exact .inl (entryAt_put_of_ne tree same .directory)

/-- Two trees have the same directories, and other things differ at some places only. -/
structure SameApart (places : List Place) (first second : FileTree) : Prop where
  outside : ∀ place, place ∉ places → second.entryAt place = first.entryAt place
  directories : SameDirectories first second

theorem SameApart.refl (places : List Place) (tree : FileTree) : SameApart places tree tree :=
  ⟨fun _ _ => rfl, fun _ => Iff.rfl⟩

theorem SameApart.trans {places : List Place} (early : SameApart places first second)
    (late : SameApart places second third) : SameApart places first third where
  outside place outer := (late.outside place outer).trans (early.outside place outer)
  directories place := (early.directories place).trans (late.directories place)

theorem SameApart.weaken {few many : List Place} (same : SameApart few first second)
    (included : ∀ place ∈ few, place ∈ many) : SameApart many first second where
  outside place outer := same.outside place fun member => outer (included place member)
  directories := same.directories

theorem sameApart_put_file {place : Place} (apart : tree.entryAt place ≠ some .directory)
    (content : ByteArray) : SameApart [place] tree (tree.put place (.file content)) where
  outside other outer := by
    have different : other ≠ place := by simpa using outer
    exact entryAt_put_of_ne tree different (.file content)
  directories other := by
    by_cases same : other = place
    · subst same
      simp [apart, entryAt_put_self tree (names_ne_nil apart)]
    · rw [entryAt_put_of_ne tree same]

theorem sameApart_erase {place : Place} (apart : tree.entryAt place ≠ some .directory) :
    SameApart [place] tree (tree.erase place) where
  outside other outer := by
    have different : other ≠ place := by simpa using outer
    exact entryAt_erase_of_ne tree different
  directories other := by
    by_cases same : other = place
    · subst same
      simp [apart, entryAt_erase_self tree (names_ne_nil apart)]
    · rw [entryAt_erase_of_ne tree same]

theorem Grows.content (grows : Grows before after) {path : Path} {bytes : ByteArray}
    (found : before.content path = .ok bytes) : after.content path = .ok bytes := by
  have file := content_ok.mp found
  exact content_mono grows.keeps found ((grows.entryAt file.2).trans file.2.symm)

theorem SameApart.content {places : List Place} (same : SameApart places first second)
    {path : Path} (outer : path.place ∉ places) {bytes : ByteArray}
    (found : first.content path = .ok bytes) : second.content path = .ok bytes :=
  content_mono same.directories.keeps found (same.outside path.place outer)

/-! ### Directories -/

def HasDirectory (tree : FileTree) (path : Path) : Prop :=
  tree.locate path = .ok path.place ∧ tree.entryAt path.place = some .directory

theorem HasDirectory.mono (there : HasDirectory before path)
    (kept : KeepsDirectories before after) : HasDirectory after path :=
  ⟨locate_mono kept there.1, kept path.place there.2⟩

theorem holdsDirectory_ok_true {path : Path} :
    tree.holdsDirectory path = .ok true ↔ tree.HasDirectory path := by
  unfold holdsDirectory find? HasDirectory
  cases located : tree.locate path with
  | ok place =>
      obtain rfl := locate_place located
      cases found : tree.entryAt path.place with
      | none => simp [Except.map, found]
      | some entry => cases entry <;> simp [Except.map, found]
  | error error =>
      split <;> simp_all [Except.map]

theorem query_eq {α : Type} (ask : FileTree → Except FileError α) (tree : FileTree) :
    query ask tree =
      match ask tree with
      | .ok answer => .ok answer tree
      | .error error => .error error tree := by
  unfold query
  simp only [bind, EStateM.bind, get, getThe, MonadStateOf.get, EStateM.get]
  cases ask tree <;> rfl

theorem makeDirectory_eq (path : Path) (tree : FileTree) :
    makeDirectory path tree =
      match tree.locate path with
      | .error error => .error error tree
      | .ok place =>
          match tree.entryAt place with
          | some _ => .error (.refused .alreadyThere path none) tree
          | none => .ok () (tree.put place .directory) := by
  unfold makeDirectory
  simp only [bind, EStateM.bind, query_eq, get, getThe, MonadStateOf.get, EStateM.get]
  cases tree.locate path with
  | error error => rfl
  | ok place =>
      dsimp only
      cases tree.entryAt place <;> rfl

/-- Making one directory puts it where nothing was, or fails and changes nothing. -/
theorem makeDirectory_cases (path : Path) (tree : FileTree) :
    (tree.locate path = .ok path.place ∧ tree.entryAt path.place = none ∧
      makeDirectory path tree = .ok () (tree.put path.place .directory)) ∨
    ∃ error, makeDirectory path tree = .error error tree := by
  rw [makeDirectory_eq]
  cases located : tree.locate path with
  | error error => exact .inr ⟨error, rfl⟩
  | ok place =>
      obtain rfl := locate_place located
      cases found : tree.entryAt path.place with
      | none => exact .inl ⟨rfl, rfl, by simp [found]⟩
      | some entry => exact .inr ⟨.refused .alreadyThere path none, by simp [found]⟩

theorem ensureDirectory_of_hasDirectory {path : Path} (there : tree.HasDirectory path) :
    ensureDirectory path tree = .ok () tree := by
  have already : makeDirectory path tree = .error (.refused .alreadyThere path none) tree := by
    simp [makeDirectory_eq, there.1, there.2]
  simp [ensureDirectory, already, holdsDirectory_ok_true.mpr there]

/-- Ensuring a directory adds it, finds it there, or fails and changes nothing. -/
theorem ensureDirectory_cases (path : Path) (tree : FileTree) :
    (∃ after, ensureDirectory path tree = .ok () after ∧ Grows tree after ∧
      after.HasDirectory path) ∨
    ∃ error, ensureDirectory path tree = .error error tree := by
  unfold ensureDirectory
  rcases makeDirectory_cases path tree with ⟨located, absent, made⟩ | ⟨error, refused⟩
  · have grows := grows_put_directory absent
    have apart : tree.entryAt path.place ≠ some .directory := by simp [absent]
    rw [made]
    exact .inl ⟨_, rfl, grows, locate_mono grows.keeps located,
      entryAt_put_self tree (names_ne_nil apart) .directory⟩
  · rw [refused]
    dsimp only
    split
    · exact .inr ⟨_, rfl⟩
    · exact .inr ⟨_, rfl⟩
    · cases holds : tree.holdsDirectory path with
      | error other => exact .inr ⟨other, rfl⟩
      | ok found =>
          cases found with
          | false => exact .inr ⟨error, rfl⟩
          | true => exact .inl ⟨tree, rfl, Grows.refl tree, holdsDirectory_ok_true.mp holds⟩

/-- Making a directory with its parents only adds directories, whether it fails or not,
and the directory is there if it does not fail. -/
theorem makeDirectoriesAt_cases (rooting : Rooting) (parts : List String) (tree : FileTree) :
    (∃ after, makeDirectoriesAt rooting parts tree = .ok () after ∧ Grows tree after ∧
      after.HasDirectory ⟨rooting, parts⟩) ∨
    ∃ error after, makeDirectoriesAt rooting parts tree = .error error after ∧
      Grows tree after := by
  induction parts generalizing tree with
  | nil =>
      rcases ensureDirectory_cases ⟨rooting, []⟩ tree with made | ⟨error, refused⟩
      · exact .inl made
      · exact .inr ⟨error, tree, refused, Grows.refl tree⟩
  | cons part outer ih =>
      unfold makeDirectoriesAt
      rcases ensureDirectory_cases ⟨rooting, part :: outer⟩ tree with made | ⟨error, refused⟩
      · obtain ⟨after, made, grows, there⟩ := made
        rw [made]
        exact .inl ⟨after, rfl, grows, there⟩
      · rw [refused]
        split
        · rename_i same
          obtain ⟨rfl, rfl⟩ := EStateM.Result.error.inj same
          rcases ih tree with ⟨middle, made, early, -⟩ | ⟨error, middle, failed, early⟩
          · rw [bind_of_ok made]
            rcases ensureDirectory_cases ⟨rooting, part :: outer⟩ middle with
              ⟨after, ensured, late, there⟩ | ⟨error, again⟩
            · exact .inl ⟨after, ensured, early.trans late, there⟩
            · exact .inr ⟨error, middle, again, early⟩
          · rw [bind_of_error failed]
            exact .inr ⟨error, middle, rfl, early⟩
        · exact .inr ⟨error, tree, rfl, Grows.refl tree⟩

theorem grows_makeDirectories (path : Path) (tree : FileTree) :
    Grows tree (finalState (makeDirectories path tree)) := by
  unfold makeDirectories
  rcases makeDirectoriesAt_cases path.rooting path.parts tree with
    ⟨after, made, grows, -⟩ | ⟨error, after, failed, grows⟩
  · rw [made]
    exact grows
  · rw [failed]
    exact grows

theorem hasDirectory_makeDirectories {path : Path}
    (made : makeDirectories path before = .ok () after) : after.HasDirectory path := by
  rcases makeDirectoriesAt_cases path.rooting path.parts before with
    ⟨other, same, -, there⟩ | ⟨error, other, failed, -⟩
  · obtain ⟨-, rfl⟩ := EStateM.Result.ok.inj (same.symm.trans made)
    exact there
  · exact absurd (failed.symm.trans made) (by simp)

theorem makeDirectories_of_hasDirectory {path : Path} (there : tree.HasDirectory path) :
    makeDirectories path tree = .ok () tree := by
  have ensured := ensureDirectory_of_hasDirectory there
  unfold makeDirectories
  cases path with
  | mk rooting parts =>
      cases parts with
      | nil => exact ensured
      | cons part outer =>
          unfold makeDirectoriesAt
          rw [ensured]

/-! ### Files -/

theorem writeFile_of_located {path : Path} (located : tree.locate path = .ok path.place)
    (apart : tree.entryAt path.place ≠ some .directory) (content : ByteArray) :
    writeFile path content tree = .ok () (tree.put path.place (.file content)) := by
  unfold writeFile
  simp only [bind, EStateM.bind, query_eq, located, get, getThe, MonadStateOf.get, EStateM.get]
  cases found : tree.entryAt path.place with
  | none => rfl
  | some entry =>
      cases entry with
      | file held => rfl
      | directory => exact absurd found apart

theorem writeFile_cases (path : Path) (content : ByteArray) (tree : FileTree) :
    (tree.locate path = .ok path.place ∧ tree.entryAt path.place ≠ some .directory ∧
      writeFile path content tree = .ok () (tree.put path.place (.file content))) ∨
    ∃ error, writeFile path content tree = .error error tree := by
  cases located : tree.locate path with
  | error error =>
      refine .inr ⟨error, ?_⟩
      simp [writeFile, bind, EStateM.bind, query_eq, located]
  | ok place =>
      obtain rfl := locate_place located
      by_cases directory : tree.entryAt path.place = some .directory
      · refine .inr ⟨.refused .isDirectory path none, ?_⟩
        simp only [writeFile, bind, EStateM.bind, query_eq, located, get, getThe,
          MonadStateOf.get, EStateM.get, directory]
        rfl
      · exact .inl ⟨rfl, directory, writeFile_of_located located directory content⟩

theorem removeFile_cases (path : Path) (tree : FileTree) :
    (tree.entryAt path.place ≠ some .directory ∧
      removeFile path tree = .ok () (tree.erase path.place)) ∨
    ∃ error, removeFile path tree = .error error tree := by
  unfold removeFile
  simp only [bind, EStateM.bind, query_eq, get, getThe, MonadStateOf.get, EStateM.get]
  cases located : tree.locate path with
  | error error => exact .inr ⟨error, rfl⟩
  | ok place =>
      obtain rfl := locate_place located
      dsimp only
      cases found : tree.entryAt path.place with
      | none => exact .inr ⟨.refused .notFound path none, rfl⟩
      | some entry =>
          cases entry with
          | file held => exact .inl ⟨by simp, rfl⟩
          | directory => exact .inr ⟨.refused .isDirectory path none, rfl⟩

theorem renameFile_of_located {source target : Path} {origin destination : Place}
    (fromOrigin : tree.locate source = .ok origin)
    (toDestination : tree.locate target = .ok destination) :
    renameFile source target tree =
      match tree.entryAt origin, tree.entryAt destination with
      | none, _ => .error (.refused .notFound source (some target)) tree
      | some _, some .directory => .error (.refused .isDirectory source (some target)) tree
      | some entry, _ => .ok () ((tree.erase origin).put destination entry) := by
  unfold renameFile
  simp only [bind, EStateM.bind, get, getThe, MonadStateOf.get, EStateM.get]
  rw [fromOrigin, toDestination]
  simp only [EStateM.bind, EStateM.get]
  cases tree.entryAt origin with
  | none => cases tree.entryAt destination <;> rfl
  | some entry =>
      cases tree.entryAt destination with
      | none => rfl
      | some held => cases held <;> rfl

/-- Renaming moves what stands at the one place to the other, or fails and changes
nothing. -/
theorem renameFile_cases (source target : Path) (tree : FileTree) :
    (∃ entry, tree.locate target = .ok target.place ∧
      tree.entryAt source.place = some entry ∧
      tree.entryAt target.place ≠ some .directory ∧
      renameFile source target tree =
        .ok () ((tree.erase source.place).put target.place entry)) ∨
    ∃ error, renameFile source target tree = .error error tree := by
  cases locatedSource : tree.locate source with
  | error error =>
      unfold renameFile
      simp only [bind, EStateM.bind, get, getThe, MonadStateOf.get, EStateM.get]
      rw [locatedSource]
      cases error <;> exact .inr ⟨_, rfl⟩
  | ok origin =>
      cases locatedTarget : tree.locate target with
      | error error =>
          unfold renameFile
          simp only [bind, EStateM.bind, get, getThe, MonadStateOf.get, EStateM.get]
          rw [locatedSource, locatedTarget]
          cases error <;> exact .inr ⟨_, rfl⟩
      | ok destination =>
          rw [renameFile_of_located locatedSource locatedTarget]
          obtain rfl := locate_place locatedSource
          obtain rfl := locate_place locatedTarget
          cases atSource : tree.entryAt source.place with
          | none => exact .inr ⟨_, rfl⟩
          | some entry =>
              cases atTarget : tree.entryAt target.place with
              | none => exact .inl ⟨entry, rfl, rfl, by simp, rfl⟩
              | some held =>
                  cases held with
                  | file content => exact .inl ⟨entry, rfl, rfl, by simp, rfl⟩
                  | directory => exact .inr ⟨_, rfl⟩

/-- A renamed file is found with its content under the new path. -/
theorem renameFile_of_file {source target : Path} {content : ByteArray}
    (different : target.place ≠ source.place)
    (file : tree.entryAt source.place = some (.file content)) :
    (∃ after, renameFile source target tree = .ok () after ∧
      after.content target = .ok content ∧
      SameApart [target.place, source.place] tree after) ∨
    ∃ error, renameFile source target tree = .error error tree := by
  rcases renameFile_cases source target tree with
    ⟨entry, located, found, apart, renamed⟩ | failed
  · obtain rfl : Entry.file content = entry := Option.some.inj (file.symm.trans found)
    have apartSource : tree.entryAt source.place ≠ some .directory := by simp [file]
    have erased := sameApart_erase apartSource
    have stillApart : (tree.erase source.place).entryAt target.place ≠ some .directory := by
      rwa [entryAt_erase_of_ne tree different]
    have moved := sameApart_put_file stillApart content
    have same : SameApart [target.place, source.place] tree
        ((tree.erase source.place).put target.place (.file content)) :=
      (erased.weaken (by simp)).trans (moved.weaken (by simp))
    refine .inl ⟨_, renamed, ?_, same⟩
    exact content_ok.mpr ⟨locate_mono same.directories.keeps located,
      entryAt_put_self _ (names_ne_nil stillApart) _⟩
  · exact .inr failed

theorem renameFile_of_reachable {source target : Path} {content : ByteArray}
    (fromSource : tree.locate source = .ok source.place)
    (toTarget : tree.locate target = .ok target.place)
    (file : tree.entryAt source.place = some (.file content))
    (apart : tree.entryAt target.place ≠ some .directory) :
    ∃ after, renameFile source target tree = .ok () after := by
  rw [renameFile_of_located fromSource toTarget, file]
  cases found : tree.entryAt target.place with
  | none => exact ⟨_, rfl⟩
  | some entry =>
      cases entry with
      | file held => exact ⟨_, rfl⟩
      | directory => exact absurd found apart

end FileTree

end ContractRollout
