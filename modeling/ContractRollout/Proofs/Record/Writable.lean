import ContractRollout.Proofs.Record.Store

/-!
# Stores that can be written to

A record can be written when its store has a directory or can get one, and when the paths
of the record and of the temporary file lead to places that are no directories. Then every
write of a storable record works, and the next one will work as well.
-/

namespace ContractRollout

open FileTree

namespace ArtifactStore

/-- Writing the record of a network can succeed. -/
structure Writable (store : ArtifactStore) (network : Json) (files : FileTree) : Prop where
  directory : makeDirectories store.path files = .ok () (store.made files)
  record : (store.made files).locate (store.recordPath network) =
    .ok (store.recordPath network).place
  temporary : (store.made files).locate (store.temporaryPath network) =
    .ok (store.temporaryPath network).place
  recordFree : (store.made files).entryAt (store.recordPath network).place ≠ some .directory
  temporaryFree :
    (store.made files).entryAt (store.temporaryPath network).place ≠ some .directory

variable {store : ArtifactStore} {network : Json} {record : NetworkRecord}
  {before after : FileTree}

theorem save_of_writable (writable : store.Writable network before) {text : List Char}
    (written : (Json.object record.fields).write .indented = .ok text) :
    ∃ after, store.save record network before = .ok () after := by
  obtain ⟨directory, located, temporary, free, temporaryFree⟩ := writable
  generalize store.made before = ready at *
  have opened := writeFile_of_located temporary temporaryFree .empty
  have early := sameApart_put_file temporaryFree .empty
  have stillFree := mt (early.directories _).mpr temporaryFree
  have filled := writeFile_of_located (locate_mono early.directories.keeps temporary) stillFree
    (String.ofList text).toUTF8
  have late := early.trans (sameApart_put_file stillFree (String.ofList text).toUTF8)
  obtain ⟨after, renamed⟩ := renameFile_of_reachable
    (locate_mono late.directories.keeps temporary) (locate_mono late.directories.keeps located)
    (entryAt_put_self _ (names_ne_nil stillFree) (.file (String.ofList text).toUTF8))
    (mt (late.directories _).mpr free)
  refine ⟨after, ?_⟩
  unfold save
  rw [bind_of_ok (saving_of_ok directory), bind_of_ok (saving_of_ok opened), written]
  dsimp only
  rw [bind_of_ok (saving_of_ok filled)]
  exact saving_of_ok renamed

/-- A record that was written could be written. -/
theorem writable_of_write (writes : store.write record network before = .ok () after) :
    store.Writable network before := by
  obtain ⟨text, filled, making, temporary, temporaryFree, -, apart, renames⟩ :=
    saved_through (save_of_write writes)
  rcases renameFile_cases (store.temporaryPath network) (store.recordPath network) filled with
    ⟨entry, located, -, free, -⟩ | ⟨error, failed⟩
  · exact ⟨making, locate_mono apart.directories.symm.keeps located, temporary,
      mt (apart.directories _).mp free, temporaryFree⟩
  · exact absurd (failed.symm.trans renames) (by simp)

/-- Where a record can be written every legible record is written, and can be written
again. -/
theorem Writable.write_of_legible (writable : store.Writable network before)
    (legible : Json.Legible (.object record.fields)) :
    ∃ after, store.write record network before = .ok () after ∧
      store.Writable network after := by
  obtain ⟨text, encoded⟩ := Json.writeAt_of_legible legible .indented 0
  obtain ⟨after, saved⟩ := save_of_writable writable encoded
  have writes := write_of_saved saved
  have written := written_of_write writes
  have ready := written.directory.mono written.apart.directories.keeps
  refine ⟨after, writes, ?_, ?_, ?_, ?_, ?_⟩
  · rw [written.made, makeDirectories_of_hasDirectory ready]
  · rw [written.made]
    exact locate_mono written.apart.directories.keeps writable.record
  · rw [written.made]
    exact locate_mono written.apart.directories.keeps writable.temporary
  · rw [written.made]
    exact mt (written.apart.directories _).mpr writable.recordFree
  · rw [written.made]
    exact mt (written.apart.directories _).mpr writable.temporaryFree

theorem Writable.write (writable : store.Writable network before) (storable : record.Storable) :
    ∃ after, store.write record network before = .ok () after ∧
      store.Writable network after :=
  writable.write_of_legible storable.legible

end ArtifactStore

end ContractRollout
