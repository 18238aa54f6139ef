import ContractRollout.FileTree.Document
import ContractRollout.Proofs.FileTree.Changes
import ContractRollout.Proofs.Parallel

/-!
# Ways to places

The way of a path goes through the places of the paths above it, down to its own place.
Nothing else is looked at to find the path, and nothing else is changed by a change to it:
on trees that agree along the way a change ends alike.
-/

namespace ContractRollout

namespace Path

/-- The places that a path leads through, its own one first. -/
def way (path : Path) : List Place := path.parts.tails.map path.start.resolve

/-- A path that leads through some places only. -/
def Within (path : Path) (places : Set Place) : Prop := ∀ place ∈ path.way, place ∈ places

theorem way_cons (rooting : Rooting) (part : String) (outer : List String) :
    (Path.mk rooting (part :: outer)).way =
      (Path.mk rooting (part :: outer)).place :: (Path.mk rooting outer).way :=
  rfl

theorem place_mem_way (path : Path) : path.place ∈ path.way :=
  List.mem_map_of_mem ((List.mem_tails _ _).mpr List.suffix_rfl)

variable {path : Path} {places : Set Place}

theorem Within.place (within : path.Within places) : path.place ∈ places :=
  within path.place path.place_mem_way

theorem Within.outer {rooting : Rooting} {part : String} {outer : List String}
    (within : (Path.mk rooting (part :: outer)).Within places) :
    (Path.mk rooting outer).Within places :=
  fun place member => within place (List.mem_cons_of_mem _ member)

end Path

namespace FileTree

variable {first second tree : FileTree} {places : Set Place} {path : Path}

/-- Two trees with the same at some places. -/
def AgreeOn (places : Set Place) (first second : FileTree) : Prop :=
  Set.EqOn first.entryAt second.entryAt places

/-! ### Looking -/

theorem walk_congr {start : Place} {parts : List String}
    (within : ∀ above, above <:+ parts → start.resolve above ∈ places)
    (agree : AgreeOn places first second) : first.walk start parts = second.walk start parts := by
  induction parts with
  | nil => rfl
  | cons part outer ih =>
      have inside (above : List String) (suffix : above <:+ outer) : start.resolve above ∈ places :=
        within above (suffix.trans (List.suffix_cons part outer))
      rw [walk_cons, walk_cons, ih inside]
      cases walks : second.walk start outer with
      | error problem => rfl
      | ok holder =>
          obtain rfl := walk_place walks
          simp only [bind, Except.bind]
          rw [agree (inside outer List.suffix_rfl)]

theorem locate_congr (within : path.Within places) (agree : AgreeOn places first second) :
    first.locate path = second.locate path := by
  have inside (above : List String) (suffix : above <:+ path.parts) :
      path.start.resolve above ∈ places :=
    within _ (List.mem_map_of_mem ((List.mem_tails _ _).mpr suffix))
  rw [locate_eq, locate_eq, walk_congr inside agree]

/-- What is found at a path depends on what stands along its way. -/
theorem find?_of_agree (within : path.Within places) (agree : AgreeOn places first second) :
    first.find? path = second.find? path := by
  unfold find?
  rw [locate_congr within agree]
  cases located : second.locate path with
  | ok place =>
      obtain rfl := locate_place located
      exact congrArg Except.ok (agree within.place)
  | error error =>
      cases error with
      | nullCharacter => rfl
      | refused problem path target => cases problem <;> rfl

theorem holds_of_agree (within : path.Within places) (agree : AgreeOn places first second) :
    first.holds path = second.holds path := by
  rw [holds, find?_of_agree within agree, holds]

theorem holdsFile_of_agree (within : path.Within places) (agree : AgreeOn places first second) :
    first.holdsFile path = second.holdsFile path := by
  rw [holdsFile, find?_of_agree within agree, holdsFile]

theorem holdsDirectory_of_agree (within : path.Within places)
    (agree : AgreeOn places first second) :
    first.holdsDirectory path = second.holdsDirectory path := by
  rw [holdsDirectory, find?_of_agree within agree, holdsDirectory]

theorem document_of_agree (within : path.Within places) (agree : AgreeOn places first second) :
    first.document path = second.document path := by
  unfold document content
  rw [locate_congr within agree]
  cases located : second.locate path with
  | ok place =>
      obtain rfl := locate_place located
      simp only [bind, Except.bind]
      rw [agree within.place]
  | error error => rfl

/-! ### Changing -/

theorem AgreeOn.put (agree : AgreeOn places first second) (place : Place) (entry : Entry) :
    AgreeOn places (first.put place entry) (second.put place entry) := by
  intro other inside
  by_cases same : other = place
  · subst same
    by_cases named : other.names = []
    · simp [entryAt, named]
    · rw [entryAt_put_self first named, entryAt_put_self second named]
  · rw [entryAt_put_of_ne first same, entryAt_put_of_ne second same]
    exact agree inside

theorem AgreeOn.erase (agree : AgreeOn places first second) (place : Place) :
    AgreeOn places (first.erase place) (second.erase place) := by
  intro other inside
  by_cases same : other = place
  · subst same
    by_cases named : other.names = []
    · simp [entryAt, named]
    · rw [entryAt_erase_self first named, entryAt_erase_self second named]
  · rw [entryAt_erase_of_ne first same, entryAt_erase_of_ne second same]
    exact agree inside

theorem parallel_query {α : Type} {ask : FileTree → Except FileError α}
    (same : ∀ first second, AgreeOn places first second → ask first = ask second) :
    Parallel (AgreeOn places) (query ask) := by
  intro first second agree
  rw [query_eq, query_eq, same first second agree]
  cases ask second with
  | ok answer => exact .ok agree
  | error error => exact .error agree

theorem parallel_makeDirectory (within : path.Within places) :
    Parallel (AgreeOn places) (makeDirectory path) := by
  intro first second agree
  rw [makeDirectory_eq, makeDirectory_eq, locate_congr within agree]
  cases located : second.locate path with
  | error error => exact .error agree
  | ok place =>
      obtain rfl := locate_place located
      dsimp only
      rw [agree within.place]
      cases second.entryAt path.place with
      | some entry => exact .error agree
      | none => exact .ok (agree.put path.place .directory)

theorem parallel_ensureDirectory (within : path.Within places) :
    Parallel (AgreeOn places) (ensureDirectory path) := by
  intro first second agree
  have alike := parallel_makeDirectory within first second agree
  unfold ensureDirectory
  generalize makeDirectory path first = one, makeDirectory path second = two at alike
  cases alike with
  | ok states => exact .ok states
  | error states =>
      dsimp only
      split
      · exact .error states
      · exact .error states
      · rw [holdsDirectory_of_agree within states]
        split
        · exact .ok states
        · exact .error states
        · exact .error states

theorem parallel_makeDirectoriesAt {rooting : Rooting} {parts : List String}
    (within : (Path.mk rooting parts).Within places) :
    Parallel (AgreeOn places) (makeDirectoriesAt rooting parts) := by
  induction parts with
  | nil => exact parallel_ensureDirectory within
  | cons part outer ih =>
      intro first second agree
      have ensures := parallel_ensureDirectory within
      have alike := ensures first second agree
      unfold makeDirectoriesAt
      generalize ensureDirectory ⟨rooting, part :: outer⟩ first = one,
        ensureDirectory ⟨rooting, part :: outer⟩ second = two at alike
      cases alike with
      | ok states => exact .ok states
      | @error error _ _ states =>
          have again := (ih within.outer).bind fun _ => ensures
          cases error with
          | nullCharacter => exact .error states
          | refused problem path target =>
              cases problem with
              | notFound => exact again _ _ states
              | _ => exact .error states

theorem parallel_makeDirectories (within : path.Within places) :
    Parallel (AgreeOn places) (makeDirectories path) :=
  parallel_makeDirectoriesAt within

theorem parallel_writeFile (within : path.Within places) (content : ByteArray) :
    Parallel (AgreeOn places) (writeFile path content) := by
  intro first second agree
  unfold writeFile
  simp only [bind, EStateM.bind, query_eq, get, getThe, MonadStateOf.get, EStateM.get]
  rw [locate_congr within agree]
  cases located : second.locate path with
  | error error => exact .error agree
  | ok place =>
      obtain rfl := locate_place located
      dsimp only
      rw [agree within.place]
      cases second.entryAt path.place with
      | none => exact .ok (agree.put path.place (.file content))
      | some entry =>
          cases entry with
          | file held => exact .ok (agree.put path.place (.file content))
          | directory => exact .error agree

theorem parallel_removeFile (within : path.Within places) :
    Parallel (AgreeOn places) (removeFile path) := by
  intro first second agree
  unfold removeFile
  simp only [bind, EStateM.bind, query_eq, get, getThe, MonadStateOf.get, EStateM.get]
  rw [locate_congr within agree]
  cases located : second.locate path with
  | error error => exact .error agree
  | ok place =>
      obtain rfl := locate_place located
      dsimp only
      rw [agree within.place]
      cases second.entryAt path.place with
      | none => exact .error agree
      | some entry =>
          cases entry with
          | file held => exact .ok (agree.erase path.place)
          | directory => exact .error agree

theorem parallel_renameFile {source target : Path} (withinSource : source.Within places)
    (withinTarget : target.Within places) :
    Parallel (AgreeOn places) (renameFile source target) := by
  intro first second agree
  cases fromOrigin : second.locate source with
  | error error =>
      unfold renameFile
      simp only [bind, EStateM.bind, get, getThe, MonadStateOf.get, EStateM.get]
      rw [locate_congr withinSource agree, fromOrigin]
      cases error <;> exact .error agree
  | ok origin =>
      cases toDestination : second.locate target with
      | error error =>
          unfold renameFile
          simp only [bind, EStateM.bind, get, getThe, MonadStateOf.get, EStateM.get]
          rw [locate_congr withinSource agree, locate_congr withinTarget agree, fromOrigin,
            toDestination]
          cases error <;> exact .error agree
      | ok destination =>
          rw [renameFile_of_located fromOrigin toDestination,
            renameFile_of_located ((locate_congr withinSource agree).trans fromOrigin)
              ((locate_congr withinTarget agree).trans toDestination)]
          obtain rfl := locate_place fromOrigin
          obtain rfl := locate_place toDestination
          rw [agree withinSource.place, agree withinTarget.place]
          cases second.entryAt source.place with
          | none => exact .error agree
          | some entry =>
              have moved := (agree.erase source.place).put target.place entry
              cases second.entryAt target.place with
              | none => exact .ok moved
              | some held =>
                  cases held with
                  | file content => exact .ok moved
                  | directory => exact .error agree

/-! ### Making directories along the way -/

theorem entryAt_ensureDirectory {place : Place} (tree : FileTree)
    (apart : place ≠ path.place) :
    (finalState (ensureDirectory path tree)).entryAt place = tree.entryAt place := by
  unfold ensureDirectory
  rcases makeDirectory_cases path tree with ⟨-, -, made⟩ | ⟨error, refused⟩
  · rw [made]
    exact entryAt_put_of_ne tree apart .directory
  · rw [refused]
    dsimp only
    split
    · rfl
    · rfl
    · split <;> rfl

/-- Nothing changes beside the way to the directory that is made. -/
theorem entryAt_makeDirectoriesAt_of_beside {rooting : Rooting} {parts : List String}
    {place : Place} (beside : place ∉ (Path.mk rooting parts).way) (tree : FileTree) :
    (finalState (makeDirectoriesAt rooting parts tree)).entryAt place = tree.entryAt place := by
  induction parts generalizing tree with
  | nil =>
      refine entryAt_ensureDirectory tree ?_
      rintro rfl
      exact beside (Path.place_mem_way _)
  | cons part outer ih =>
      rw [Path.way_cons, List.mem_cons, not_or] at beside
      have first := entryAt_ensureDirectory tree beside.1
      unfold makeDirectoriesAt
      generalize ensured : ensureDirectory ⟨rooting, part :: outer⟩ tree = result at first
      split
      · rename_i problem path target early
        have parents := ih beside.2 early
        cases makes : makeDirectoriesAt rooting outer early with
        | error error later =>
            rw [makes] at parents
            rw [bind_of_error makes]
            exact parents.trans first
        | ok _ later =>
            rw [makes] at parents
            rw [bind_of_ok makes]
            exact (entryAt_ensureDirectory later beside.1).trans (parents.trans first)
      · exact first

end FileTree

end ContractRollout
