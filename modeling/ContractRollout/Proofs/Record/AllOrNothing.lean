import ContractRollout.Proofs.FileTree.Directories
import ContractRollout.Proofs.Record.Leftovers

/-!
# Writes as a whole or not at all

A new record takes the place of the old one by a rename, which is the last thing that a write
does. Whatever fails before it or in it, the old record is still there. All that may be left then
is a temporary file, and that only if the complaint is about clearing it away, and new
directories on the way to the store.
-/

namespace ContractRollout

namespace FileTree

variable {before after : FileTree} {places : List Place}

/-- Apart from some places the later tree has the files of the earlier one and no others, and
none of its directories is gone. -/
structure KeepsFiles (places : List Place) (before after : FileTree) : Prop where
  files : ∀ place ∉ places, ∀ bytes,
    after.entryAt place = some (.file bytes) ↔ before.entryAt place = some (.file bytes)
  directories : KeepsDirectories before after

theorem Grows.file_iff (grows : Grows before after) {place : Place} {bytes : ByteArray} :
    after.entryAt place = some (.file bytes) ↔ before.entryAt place = some (.file bytes) := by
  rcases grows place with same | ⟨absent, made⟩
  · rw [same]
  · simp [absent, made]

theorem Grows.keepsFiles {middle : FileTree} (grows : Grows before middle)
    (apart : SameApart places middle after) : KeepsFiles places before after where
  files place outer bytes := by rw [apart.outside place outer, grows.file_iff]
  directories place there := apart.directories.keeps place (grows.keeps place there)

theorem KeepsFiles.weaken {few many : List Place} (keeps : KeepsFiles few before after)
    (included : ∀ place ∈ few, place ∈ many) : KeepsFiles many before after where
  files place outer := keeps.files place fun member => outer (included place member)
  directories := keeps.directories

end FileTree

open FileTree

namespace ArtifactStore

variable {store : ArtifactStore} {record : NetworkRecord} {network : Json} {fault : Fault}
  {before after : FileTree}

theorem Written.keepsFiles (written : Written store record network before after) :
    KeepsFiles [(store.recordPath network).place, (store.temporaryPath network).place] before
      after :=
  (store.grows_made before).keepsFiles written.apart

/-- A write that fails changes no file but the temporary one. -/
theorem keepsFiles_of_write_error
    (refuses : store.write record network before = .error fault after) :
    KeepsFiles [(store.temporaryPath network).place] before after :=
  (store.grows_made before).keepsFiles (sameApart_of_write_error refuses)

/-- On the way to a store without double dots there is no record. -/
theorem recordPlace_not_mem_way {name : String} (plain : '/' ∉ name.toList)
    (straight : ".." ∉ store.path.parts) :
    (store.recordPath (.string name)).place ∉ store.path.way := by
  have simple : ".." ∉ (name ++ ".json") :: store.path.parts := by
    simpa [straight] using (json_ne_parent name).symm
  rw [store.recordPath_of_plain plain]
  apply Path.not_mem_way_of_deep _ straight
  rw [Path.names_place simple, List.length_cons]
  exact Nat.lt_succ_self _

/-- A write that fails leaves what stands at the place of the record, if anything does. -/
theorem entryAt_record_of_write_error {name : String} (plain : '/' ∉ name.toList)
    (straight : ".." ∉ store.path.parts)
    (refuses : store.write record (.string name) before = .error fault after) :
    after.entryAt (store.recordPath (.string name)).place =
      before.entryAt (store.recordPath (.string name)).place := by
  have outer : (store.recordPath (.string name)).place ∉
      [(store.temporaryPath (.string name)).place] := by
    simpa using store.recordPlace_ne_temporaryPlace (.string name)
  rw [(sameApart_of_write_error refuses).outside _ outer]
  exact entryAt_makeDirectoriesAt_of_beside (recordPlace_not_mem_way plain straight) before

/-- After a record is saved there is nothing at the path of its temporary file. -/
theorem find?_temporary_of_write (writes : store.write record network before = .ok () after) :
    after.find? (store.temporaryPath network) = .ok none := by
  obtain ⟨text, filled, -, located, -⟩ := saved_through (save_of_write writes)
  have apart := (written_of_write writes).apart
  rw [find?, locate_mono apart.directories.keeps located]
  exact congrArg Except.ok (entryAt_temporary_of_write writes)

theorem Written.decodes (written : Written store record network before after)
    (distinct : Json.Distinct (.object record.fields))
    (floatFree : Json.FloatFree (.object record.fields)) :
    ∃ bytes, after.content (store.recordPath network) = .ok bytes ∧
      Json.ofBytes bytes = .ok (.object record.fields) := by
  obtain ⟨text, writes, content⟩ := written.content
  have faithful := (distinct.legible writes).faithful floatFree
  exact ⟨_, content, Json.ofBytes_write Json.spaced_indented faithful writes⟩

/-- A write works as a whole or not at all. If it works, its file holds the record, as long as
there are no doubles in it and no object has a key twice, and there is no temporary file. If it
fails, the file of the record is as it was, and for a store whose path has no double dots so is
whatever else stands in its place. If it reports that the record was not saved, there is no
temporary file, even if there was one before. In all cases no other file is made, changed or
removed, and no directory is removed. -/
theorem write_all_or_nothing (store : ArtifactStore) (record : NetworkRecord) (network : Json)
    (before : FileTree) :
    (∀ after, store.write record network before = .ok () after →
      (Json.Distinct (.object record.fields) → Json.FloatFree (.object record.fields) →
        ∃ bytes, after.content (store.recordPath network) = .ok bytes ∧
          Json.ofBytes bytes = .ok (.object record.fields)) ∧
      after.find? (store.temporaryPath network) = .ok none) ∧
    (∀ fault after, store.write record network before = .error fault after →
      (∀ bytes, after.entryAt (store.recordPath network).place = some (.file bytes) ↔
        before.entryAt (store.recordPath network).place = some (.file bytes)) ∧
      (∀ name, network = .string name → '/' ∉ name.toList → ".." ∉ store.path.parts →
        after.entryAt (store.recordPath network).place =
          before.entryAt (store.recordPath network).place) ∧
      ∀ report, fault = .persistence report →
        after.find? (store.temporaryPath network) = .ok none) ∧
    KeepsFiles [(store.recordPath network).place, (store.temporaryPath network).place] before
      (finalState (store.write record network before)) := by
  refine ⟨?works, ?fails, ?frame⟩
  case works =>
    intro after writes
    exact ⟨(written_of_write writes).decodes, find?_temporary_of_write writes⟩
  case fails =>
    intro fault after refuses
    refine ⟨?file, ?place, ?temporary⟩
    case file =>
      have outer : (store.recordPath network).place ∉ [(store.temporaryPath network).place] := by
        simpa using store.recordPlace_ne_temporaryPlace network
      exact (keepsFiles_of_write_error refuses).files _ outer
    case place =>
      rintro name rfl plain straight
      exact entryAt_record_of_write_error plain straight refuses
    case temporary =>
      rintro report rfl
      exact find?_temporary_of_unsaved refuses
  case frame =>
    cases writes : store.write record network before with
    | ok _ after => exact (written_of_write writes).keepsFiles
    | error fault after => exact (keepsFiles_of_write_error writes).weaken (by simp)

/-- Files with a temporary file that an earlier run has left behind. -/
def staleFiles : FileTree :=
  (FileTree.empty.put ⟨.above 0, ["records"]⟩ .directory).put
    ⟨.above 0, ["pisco-1.json.tmp", "records"]⟩ (.file .empty)

/-- A value that cannot be written, where a temporary file is left from before. -/
theorem write_all_or_nothing_stale :
    ∃ report after,
      (ofText "records").write ⟨.string "pisco-1", [("k", .foreign "object" "<object>")]⟩
          (.string "pisco-1") staleFiles = .error (.persistence report) after ∧
        staleFiles.find? ((ofText "records").temporaryPath (.string "pisco-1")) =
          .ok (some (.file .empty)) ∧
        after.find? ((ofText "records").temporaryPath (.string "pisco-1")) = .ok none := by
  have stale : staleFiles.find? ((ofText "records").temporaryPath (.string "pisco-1")) =
      .ok (some (.file .empty)) := by
    rfl
  obtain ⟨-, fails, -⟩ := write_all_or_nothing (ofText "records")
    ⟨.string "pisco-1", [("k", .foreign "object" "<object>")]⟩ (.string "pisco-1") staleFiles
  have unwritten : isOk ((ofText "records").write
      ⟨.string "pisco-1", [("k", .foreign "object" "<object>")]⟩ (.string "pisco-1") staleFiles) =
      false := by
    decide +kernel
  cases writes : (ofText "records").write
      ⟨.string "pisco-1", [("k", .foreign "object" "<object>")]⟩ (.string "pisco-1") staleFiles with
  | ok _ after => simp [writes, isOk] at unwritten
  | error fault after =>
      rcases write_error_cases writes with ⟨-, cause, rfl⟩ | ⟨stuck, -⟩
      · exact ⟨_, after, rfl, stale, (fails _ after writes).2.2 _ rfl⟩
      · exact absurd ⟨some (.file .empty), by rfl, by simp⟩ stuck

end ArtifactStore

end ContractRollout
