import ContractRollout.Proofs.FileTree.Ways
import ContractRollout.Proofs.Record.Store

/-!
# The footprint of a record

Saving the record of a network changes the places of the record and of its temporary file,
and makes directories on the way to the store. Reading and saving it look along the ways of
these paths only, so that what stands elsewhere is no matter.
-/

namespace ContractRollout

open FileTree

namespace ArtifactStore

variable {store : ArtifactStore} {network : Json} {record : NetworkRecord}
  {before after first second third tree : FileTree} {places : Set Place}

/-! ### What is changed -/

/-- Two trees that differ, if at all, by the record of a network, its temporary file and new
directories on the way to the store. -/
def Confined (store : ArtifactStore) (network : Json) (before after : FileTree) : Prop :=
  ∀ place, after.entryAt place ≠ before.entryAt place →
    place = (store.recordPath network).place ∨ place = (store.temporaryPath network).place ∨
      (place ∈ store.path.way ∧ before.entryAt place = none ∧
        after.entryAt place = some .directory)

theorem Confined.refl (store : ArtifactStore) (network : Json) (tree : FileTree) :
    store.Confined network tree tree :=
  fun _ differs => absurd rfl differs

theorem Confined.trans (early : store.Confined network first second)
    (late : store.Confined network second third) : store.Confined network first third := by
  intro place differs
  by_cases same : second.entryAt place = first.entryAt place
  · rw [← same] at differs ⊢
    exact late place differs
  · rcases early place same with record | temporary | ⟨onWay, absent, made⟩
    · exact .inl record
    · exact .inr (.inl temporary)
    · by_cases still : third.entryAt place = second.entryAt place
      · exact .inr (.inr ⟨onWay, absent, still.trans made⟩)
      · rcases late place still with record | temporary | ⟨-, gone, -⟩
        · exact .inl record
        · exact .inr (.inl temporary)
        · exact absurd (made.symm.trans gone) (by simp)

/-- Only directories on the way to the store are made for it. -/
theorem confined_made (store : ArtifactStore) (network : Json) (tree : FileTree) :
    store.Confined network tree (store.made tree) := by
  intro place differs
  have onWay : place ∈ store.path.way := by
    by_contra beside
    exact differs (entryAt_makeDirectoriesAt_of_beside beside tree)
  rcases store.grows_made tree place with same | made
  · exact absurd same differs
  · exact .inr (.inr ⟨onWay, made⟩)

theorem confined_of_sameApart
    (same : SameApart [(store.recordPath network).place, (store.temporaryPath network).place]
      before after) : store.Confined network before after := by
  intro place differs
  have inside : place ∈ [(store.recordPath network).place, (store.temporaryPath network).place] := by
    by_contra outer
    exact differs (same.outside place outer)
  simp only [List.mem_cons, List.not_mem_nil, or_false] at inside
  exact inside.imp_right .inl

/-- Whether a write works or fails, it keeps to the footprint of its record. -/
theorem confined_write (store : ArtifactStore) (record : NetworkRecord) (network : Json)
    (tree : FileTree) :
    store.Confined network tree (finalState (store.write record network tree)) := by
  have made := store.confined_made network tree
  cases writes : store.write record network tree with
  | ok _ later => exact made.trans (confined_of_sameApart (written_of_write writes).apart)
  | error fault later =>
      have apart := sameApart_of_write_error writes
      exact made.trans (confined_of_sameApart (apart.weaken (by simp)))

/-! ### What is looked at -/

/-- All that reading and saving the record of a network looks at is at some places. -/
structure Covered (store : ArtifactStore) (network : Json) (places : Set Place) : Prop where
  directory : store.path.Within places
  record : (store.recordPath network).Within places
  temporary : (store.temporaryPath network).Within places

theorem read_of_agree (within : (store.recordPath network).Within places)
    (agree : AgreeOn places first second) :
    store.read first network = store.read second network := by
  simp only [ArtifactStore.read, holds_of_agree within agree, document_of_agree within agree]

theorem parallel_save (covered : store.Covered network places) (record : NetworkRecord) :
    Parallel (AgreeOn places) (store.save record network) := by
  unfold save
  apply ((parallel_makeDirectories covered.directory).adaptExcept _).bind
  intro _
  apply ((parallel_writeFile covered.temporary _).adaptExcept _).bind
  intro _
  cases (Json.object record.fields).write .indented with
  | error error => exact parallel_throw _
  | ok text =>
      apply ((parallel_writeFile covered.temporary _).adaptExcept _).bind
      intro _
      exact (parallel_renameFile covered.temporary covered.record).adaptExcept _

theorem parallel_discard (covered : store.Covered network places) :
    Parallel (AgreeOn places) (store.discard network) := by
  unfold discard
  apply (parallel_query fun _ _ agree => holds_of_agree covered.temporary agree).bind
  intro there
  split
  · exact parallel_removeFile covered.temporary
  · exact parallel_pure ()

theorem parallel_write (covered : store.Covered network places) (record : NetworkRecord) :
    Parallel (AgreeOn places) (store.write record network) := by
  intro first second agree
  have alike := parallel_save covered record first second agree
  unfold write
  generalize store.save record network first = one, store.save record network second = two
    at alike
  cases alike with
  | ok states => exact .ok states
  | error states =>
      refine Parallel.bind ((parallel_discard covered).adaptExcept Fault.file) ?_ _ _ states
      exact fun _ => parallel_throw _

end ArtifactStore

end ContractRollout
