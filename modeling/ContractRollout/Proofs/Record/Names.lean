import ContractRollout.Proofs.FileTree.Directories
import ContractRollout.Proofs.Record.Store

/-!
# Names of record files

The files of a network are called by its name with an ending. Only the empty name, whose
record has no suffix to replace, gets a longer temporary name. So where the temporary
file has a name and a path that the system takes, the record has them too, and both are
found as soon as the directory of the store is there.
-/

namespace ContractRollout

open FileTree

/-! ### Suffixes -/

theorem Path.stem_json (name : String) :
    Path.stem (name ++ ".json") = if name = "" then ".json" else name := by
  have backwards : (name ++ ".json").toList.reverse =
      ['n', 'o', 's', 'j', '.'] ++ name.toList.reverse := by
    simp
  unfold Path.stem
  simp only [backwards]
  by_cases unnamed : name = ""
  · subst unnamed
    rfl
  · simp [unnamed, List.takeWhile, List.dropWhile]

theorem le_stem_json (name : String) :
    name.utf8ByteSize ≤ (Path.stem (name ++ ".json")).utf8ByteSize := by
  rw [Path.stem_json]
  split
  · rename_i unnamed
    subst unnamed
    decide
  · exact Nat.le_refl _

theorem stem_json_le (name : String) :
    (Path.stem (name ++ ".json")).utf8ByteSize ≤ max name.utf8ByteSize 5 := by
  rw [Path.stem_json]
  split
  · exact Nat.le_trans (by decide) (Nat.le_max_right _ _)
  · exact Nat.le_max_left _ _

theorem not_mem_stem_json {name : String} {character : Char} (outside : character ∉ name.toList)
    (apart : character ∉ ".json".toList) :
    character ∉ (Path.stem (name ++ ".json")).toList := by
  rw [Path.stem_json]
  split
  · exact apart
  · exact outside

/-! ### The files of a network -/

namespace ArtifactStore

variable {store : ArtifactStore} {name : String} {tree : FileTree}

theorem temporaryPath_of_plain (store : ArtifactStore) (plain : '/' ∉ name.toList) :
    store.temporaryPath (.string name) =
      ⟨store.path.rooting, (Path.stem (name ++ ".json") ++ ".json.tmp") :: store.path.parts⟩ := by
  rw [temporaryPath, store.recordPath_of_plain plain, Path.withSuffix]

theorem recordPlace_of_plain (store : ArtifactStore) (plain : '/' ∉ name.toList) :
    (store.recordPath (.string name)).place = store.path.place.child (name ++ ".json") := by
  rw [store.recordPath_of_plain plain, Path.place_cons _ (json_ne_parent name)]

theorem temporaryPlace_of_plain (store : ArtifactStore) (plain : '/' ∉ name.toList) :
    (store.temporaryPath (.string name)).place =
      store.path.place.child (Path.stem (name ++ ".json") ++ ".json.tmp") := by
  rw [store.temporaryPath_of_plain plain, Path.place_cons _ (temporary_ne_parent _)]

/-- A network whose files can be named: there are no slashes and null characters in its name,
and neither the name nor the path of its temporary file is too long. -/
structure Names (store : ArtifactStore) (name : String) : Prop where
  plain : '/' ∉ name.toList
  solid : '\x00' ∉ name.toList
  short : name.utf8ByteSize ≤ 246
  fits : (store.temporaryPath (.string name)).toString.utf8ByteSize < pathLimit

theorem Names.acceptable (names : store.Names name) (usable : Acceptable store.path) :
    Acceptable (store.recordPath (.string name)) ∧
      Acceptable (store.temporaryPath (.string name)) := by
  have unbroken : '\x00' ∉ store.path.toString.toList := by simpa using usable.1
  have front : '\x00' ∉ store.path.front.toList := Path.not_mem_front (by decide) unbroken
  have stem : '\x00' ∉ (Path.stem (name ++ ".json")).toList :=
    not_mem_stem_json names.solid (by decide)
  have solid := names.solid
  have longer := le_stem_json name
  have fits := names.fits
  rw [store.temporaryPath_of_plain names.plain, Path.toString_cons] at fits
  simp only [Acceptable, store.recordPath_of_plain names.plain,
    store.temporaryPath_of_plain names.plain, Path.toString_cons]
  have endings : ".json".utf8ByteSize = 5 ∧ ".json.tmp".utf8ByteSize = 9 := by decide
  simp only [String.utf8ByteSize_append, endings.1, endings.2] at fits ⊢
  refine ⟨⟨?_, by omega⟩, ?_, fits⟩
  · simp [front, solid]
  · simp [front, stem]

/-- In the directory of the store the files of a network are found. -/
theorem Names.locate (names : store.Names name) (there : tree.HasDirectory store.path) :
    tree.locate (store.recordPath (.string name)) =
        .ok (store.recordPath (.string name)).place ∧
      tree.locate (store.temporaryPath (.string name)) =
        .ok (store.temporaryPath (.string name)).place := by
  have acceptable := names.acceptable (locate_ok.mp there.1).1
  have short := names.short
  have stem := stem_json_le name
  have endings : ".json".utf8ByteSize = 5 ∧ ".json.tmp".utf8ByteSize = 9 := by decide
  rw [store.recordPath_of_plain names.plain, store.temporaryPath_of_plain names.plain] at *
  constructor
  · apply locate_child there acceptable.1
    rw [String.utf8ByteSize_append, endings.1, nameLimit]
    omega
  · apply locate_child there acceptable.2
    rw [String.utf8ByteSize_append, endings.2, nameLimit]
    omega

end ArtifactStore

end ContractRollout
