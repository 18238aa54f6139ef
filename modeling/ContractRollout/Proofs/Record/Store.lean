import ContractRollout.Proofs.FileTree.Changes
import ContractRollout.Proofs.Json.Documents
import ContractRollout.Proofs.Record.Network
import ContractRollout.Proofs.Record.Paths

/-!
# Reading and writing records

What is read of a record depends on the directories of the tree and on what stands at
its place. A save that works puts the record at its place and its directory is there
from then on. A save that fails leaves nothing behind but directories on the way to
the store and traces at the place of the temporary file.
-/

namespace ContractRollout

open FileTree

theorem FileTree.document_ok {tree : FileTree} {path : Path} {value : Json} :
    tree.document path = .ok value ↔
      ∃ bytes, tree.content path = .ok bytes ∧ Json.ofBytes bytes = .ok value := by
  unfold document
  rw [bind_eq_ok]
  simp only [mapError_eq_ok]

theorem Json.ofBytes_faithful {bytes : ByteArray} {value : Json}
    (holds : Json.ofBytes bytes = .ok value) : Json.Faithful value := by
  unfold Json.ofBytes at holds
  cases text : fileText? bytes with
  | none => simp [text] at holds
  | some characters =>
      simp only [text] at holds
      exact Json.read_faithful (mapError_eq_ok.mp holds)

namespace ArtifactStore

variable {store : ArtifactStore} {network : Json} {record : NetworkRecord}
  {before after first second tree : FileTree}

/-! ### Reading -/

/-- A record is read as empty where nothing is found, and else as the object at its
path. -/
theorem read_ok :
    store.read tree network = .ok record ↔
      (tree.holds (store.recordPath network) = .ok false ∧ record = .empty network) ∨
      ∃ bytes fields, tree.content (store.recordPath network) = .ok bytes ∧
        Json.ofBytes bytes = .ok (.object fields) ∧ record = ⟨network, fields⟩ := by
  unfold ArtifactStore.read
  simp only [bind_eq_ok, mapError_eq_ok]
  constructor
  · rintro ⟨found, holds, reads⟩
    cases found with
    | false =>
        have same : NetworkRecord.empty network = record := Except.ok.inj reads
        exact .inl ⟨holds, same.symm⟩
    | true =>
        obtain ⟨-, -, reads⟩ := bind_eq_ok.mp reads
        obtain ⟨value, document, reads⟩ := bind_eq_ok.mp reads
        obtain ⟨bytes, content, decoded⟩ := document_ok.mp (mapError_eq_ok.mp document)
        cases value with
        | object fields =>
            have same : ⟨network, fields⟩ = record := Except.ok.inj reads
            exact .inr ⟨bytes, fields, content, decoded, same.symm⟩
        | _ => simp [throw, throwThe, MonadExceptOf.throw] at reads
  · rintro (⟨holds, rfl⟩ | ⟨bytes, fields, content, decoded, rfl⟩)
    · exact ⟨false, holds, rfl⟩
    · have file := content_ok.mp content
      refine ⟨true, holds_ok_true.mpr ⟨file.1, _, file.2⟩, ?_⟩
      have document := document_ok.mpr ⟨bytes, content, decoded⟩
      simp [document, bind, Except.bind, Except.mapError, pure, Except.pure]

theorem read_unique {other : NetworkRecord} (reads : store.read tree network = .ok record)
    (readsOther : store.read tree network = .ok other) : record = other :=
  Except.ok.inj (reads.symm.trans readsOther)

/-- What is read is faithful, and it is the record of the network that was asked for. -/
theorem read_faithful (reads : store.read tree network = .ok record) :
    record.network = network ∧ Json.Faithful (.object record.fields) := by
  rcases read_ok.mp reads with ⟨-, rfl⟩ | ⟨bytes, fields, -, decoded, rfl⟩
  · exact ⟨rfl, .object List.nodup_nil (by simp [NetworkRecord.empty])⟩
  · exact ⟨rfl, Json.ofBytes_faithful decoded⟩

theorem read_legible (reads : store.read tree network = .ok record) :
    record.network = network ∧ Json.Legible (.object record.fields) :=
  (read_faithful reads).imp_right Json.Faithful.legible

/-- What is read depends on the directories and on the place of the record. -/
theorem read_congr (same : SameDirectories first second)
    (agree : first.entryAt (store.recordPath network).place =
      second.entryAt (store.recordPath network).place) :
    store.read first network = store.read second network := by
  have found : first.holds (store.recordPath network) =
      second.holds (store.recordPath network) := by
    unfold holds
    rw [find?_congr same agree]
  simp only [ArtifactStore.read, found]
  cases holds : second.holds (store.recordPath network) with
  | error error => simp only [bind, Except.bind, Except.mapError]
  | ok there =>
      cases there with
      | false => simp [bind, Except.bind, Except.mapError]
      | true =>
          obtain ⟨located, entry, -⟩ := holds_ok_true.mp holds
          have content : first.content (store.recordPath network) =
              second.content (store.recordPath network) := by
            unfold content
            rw [located, locate_mono same.symm.keeps located]
            simp only [bind, Except.bind, agree]
          simp only [document, content]

theorem read_of_missing {name : String} (plain : '/' ∉ name.toList)
    (acceptable : Acceptable (store.recordPath (.string name)))
    (located : tree.locate store.path = .ok store.path.place)
    (absent : tree.entryAt store.path.place = none) :
    store.read tree (.string name) = .ok (.empty (.string name)) := by
  have path := store.recordPath_of_plain plain
  have walks : tree.walk (store.recordPath (.string name)).start
      (store.recordPath (.string name)).parts = .error .notFound := by
    have walksStore : tree.walk store.path.start store.path.parts = .ok store.path.place :=
      (locate_ok.mp located).2
    rw [path]
    change tree.walk store.path.start _ = _
    rw [walk_cons, walksStore]
    simp [bind, Except.bind, absent]
  refine read_ok.mpr (.inl ⟨?_, rfl⟩)
  unfold holds find?
  rw [locate_eq, acceptable.1, if_neg (Nat.not_le_of_lt acceptable.2), walks]
  rfl

theorem not_read_of_tooLong {name : String} (plain : '/' ∉ name.toList)
    (acceptable : Acceptable (store.recordPath (.string name)))
    (long : nameLimit < (name ++ ".json").utf8ByteSize) (there : tree.HasDirectory store.path) :
    store.read tree (.string name) ≠ .ok record := by
  have path := store.recordPath_of_plain plain
  have walks : tree.walk (store.recordPath (.string name)).start
      (store.recordPath (.string name)).parts = .error .nameTooLong := by
    rw [path]
    exact walk_cons_tooLong.mpr (.inr ⟨store.path.place, (locate_ok.mp there.1).2, there.2,
      json_ne_parent name, long⟩)
  intro reads
  rcases read_ok.mp reads with ⟨holds, -⟩ | ⟨bytes, fields, content, -⟩
  · unfold FileTree.holds find? at holds
    rw [locate_eq, acceptable.1, if_neg (Nat.not_le_of_lt acceptable.2), walks] at holds
    simp [Except.mapError, Except.map] at holds
  · have walked := (locate_ok.mp (content_ok.mp content).1).2
    rw [walks] at walked
    simp at walked

/-! ### Saving -/

/-- The tree once the directory of the store has been made, as far as it can be. -/
def made (store : ArtifactStore) (tree : FileTree) : FileTree :=
  finalState (makeDirectories store.path tree)

theorem grows_made (store : ArtifactStore) (tree : FileTree) : Grows tree (store.made tree) :=
  grows_makeDirectories store.path tree

theorem made_of_hasDirectory (there : tree.HasDirectory store.path) : store.made tree = tree := by
  rw [made, makeDirectories_of_hasDirectory there, finalState_ok]

theorem saving_of_ok {α : Type} {change : FileChange α} {value : α}
    (changes : change before = .ok value after) : saving change before = .ok value after := by
  simp [saving, EStateM.adaptExcept, changes]

theorem saving_of_error {α : Type} {change : FileChange α} {error : FileError}
    (refused : change before = .error error after) :
    saving change before = .error (.file error) after := by
  simp [saving, EStateM.adaptExcept, refused]

theorem saving_ok {α : Type} {change : FileChange α} {value : α} :
    saving change before = .ok value after ↔ change before = .ok value after := by
  simp only [saving, EStateM.adaptExcept]
  cases change before <;> simp

/-- A save puts the written record at its place, or fails and only leaves traces at the
place of the temporary file. -/
theorem save_cases (store : ArtifactStore) (record : NetworkRecord) (network : Json)
    (tree : FileTree) :
    (∃ after text, store.save record network tree = .ok () after ∧
      (store.made tree).HasDirectory store.path ∧
      (Json.object record.fields).write .indented = .ok text ∧
      after.content (store.recordPath network) = .ok (String.ofList text).toUTF8 ∧
      SameApart [(store.recordPath network).place, (store.temporaryPath network).place]
        (store.made tree) after) ∨
    ∃ error after, store.save record network tree = .error error after ∧
      SameApart [(store.temporaryPath network).place] (store.made tree) after := by
  unfold save
  cases making : makeDirectories store.path tree with
  | error error early =>
      have same : store.made tree = early := by rw [made, making, finalState_error]
      rw [bind_of_error (saving_of_error making), same]
      exact .inr ⟨_, _, rfl, SameApart.refl _ early⟩
  | ok _ ready =>
      have same : store.made tree = ready := by rw [made, making, finalState_ok]
      rw [bind_of_ok (saving_of_ok making), same]
      rcases writeFile_cases (store.temporaryPath network) .empty ready with
        ⟨located, apart, opened⟩ | ⟨error, refused⟩
      · rw [bind_of_ok (saving_of_ok opened)]
        have early := sameApart_put_file apart .empty
        cases written : (Json.object record.fields).write .indented with
        | error error => exact .inr ⟨_, _, rfl, early⟩
        | ok text =>
            dsimp only
            rcases writeFile_cases (store.temporaryPath network) (String.ofList text).toUTF8
              (ready.put (store.temporaryPath network).place (.file .empty)) with
              ⟨-, stillApart, filled⟩ | ⟨error, refused⟩
            · rw [bind_of_ok (saving_of_ok filled)]
              have late := early.trans
                (sameApart_put_file stillApart (String.ofList text).toUTF8)
              rcases renameFile_of_file (store.recordPlace_ne_temporaryPlace network)
                (entryAt_put_self _ (names_ne_nil stillApart) (.file (String.ofList text).toUTF8)) with
                ⟨after, renamed, content, moved⟩ | ⟨error, failed⟩
              · exact .inl ⟨after, text, saving_of_ok renamed, hasDirectory_makeDirectories making,
                  rfl, content, (late.weaken (by simp)).trans moved⟩
              · exact .inr ⟨_, _, saving_of_error failed, late⟩
            · rw [bind_of_error (saving_of_error refused)]
              exact .inr ⟨_, _, rfl, early⟩
      · rw [bind_of_error (saving_of_error refused)]
        exact .inr ⟨_, _, rfl, SameApart.refl _ ready⟩

theorem sameApart_discard (store : ArtifactStore) (network : Json) (tree : FileTree) :
    SameApart [(store.temporaryPath network).place] tree
      (finalState (store.discard network tree)) := by
  unfold discard
  cases holds : tree.holds (store.temporaryPath network) with
  | error error =>
      have asks : query (·.holds (store.temporaryPath network)) tree = .error error tree := by
        rw [query_eq, holds]
      rw [bind_of_error asks]
      exact SameApart.refl _ tree
  | ok there =>
      have asks : query (·.holds (store.temporaryPath network)) tree = .ok there tree := by
        rw [query_eq, holds]
      rw [bind_of_ok asks]
      cases there with
      | false => exact SameApart.refl _ tree
      | true =>
          rw [if_pos rfl]
          rcases removeFile_cases (store.temporaryPath network) tree with
            ⟨apart, removed⟩ | ⟨error, failed⟩
          · rw [removed]
            exact sameApart_erase apart
          · rw [failed]
            exact SameApart.refl _ tree

/-- What a write that works has done. -/
structure Written (store : ArtifactStore) (record : NetworkRecord) (network : Json)
    (before after : FileTree) : Prop where
  directory : (store.made before).HasDirectory store.path
  content : ∃ text, (Json.object record.fields).write .indented = .ok text ∧
    after.content (store.recordPath network) = .ok (String.ofList text).toUTF8
  apart : SameApart [(store.recordPath network).place, (store.temporaryPath network).place]
    (store.made before) after

theorem write_of_saved (saves : store.save record network before = .ok () after) :
    store.write record network before = .ok () after := by
  simp only [write, saves]

/-- A write that cannot save ends as the removal of the temporary file allows. -/
theorem write_of_unsaved {error : SaveError} {later : FileTree}
    (fails : store.save record network before = .error error later) :
    store.write record network before =
      match store.discard network later with
      | .ok _ cleared =>
          .error (.persistence ⟨.unsaved (store.recordPath network) error, network, "", .string ""⟩)
            cleared
      | .error complaint left => .error (.file complaint) left := by
  simp only [write, fails, bind, EStateM.bind, EStateM.adaptExcept]
  cases store.discard network later <;> rfl

theorem save_of_write (writes : store.write record network before = .ok () after) :
    store.save record network before = .ok () after := by
  cases saves : store.save record network before with
  | ok _ later =>
      obtain ⟨-, rfl⟩ := EStateM.Result.ok.inj ((write_of_saved saves).symm.trans writes)
      rfl
  | error error later =>
      rw [write_of_unsaved saves] at writes
      split at writes <;> simp at writes

/-- The stages of a save that works. -/
theorem saved_through (saves : store.save record network before = .ok () after) :
    ∃ text filled, makeDirectories store.path before = .ok () (store.made before) ∧
      (store.made before).locate (store.temporaryPath network) =
        .ok (store.temporaryPath network).place ∧
      (store.made before).entryAt (store.temporaryPath network).place ≠ some .directory ∧
      (Json.object record.fields).write .indented = .ok text ∧
      SameApart [(store.temporaryPath network).place] (store.made before) filled ∧
      renameFile (store.temporaryPath network) (store.recordPath network) filled =
        .ok () after := by
  unfold save at saves
  obtain ⟨⟨⟩, ready, making, saves⟩ := bind_ok_iff.mp saves
  rw [saving_ok] at making
  obtain rfl : store.made before = ready := by rw [made, making, finalState_ok]
  obtain ⟨⟨⟩, opened, opens, saves⟩ := bind_ok_iff.mp saves
  rw [saving_ok] at opens
  rcases writeFile_cases (store.temporaryPath network) .empty (store.made before) with
    ⟨located, free, opensTo⟩ | ⟨error, refused⟩
  · obtain ⟨-, rfl⟩ := EStateM.Result.ok.inj (opensTo.symm.trans opens)
    have early := sameApart_put_file free .empty
    cases written : (Json.object record.fields).write .indented with
    | error error => simp [written, throw, throwThe, MonadExceptOf.throw, EStateM.throw] at saves
    | ok text =>
        simp only [written] at saves
        obtain ⟨⟨⟩, filled, fills, renames⟩ := bind_ok_iff.mp saves
        rw [saving_ok] at fills renames
        rcases writeFile_cases (store.temporaryPath network) (String.ofList text).toUTF8
          ((store.made before).put (store.temporaryPath network).place (.file .empty)) with
          ⟨-, stillFree, fillsTo⟩ | ⟨error, refused⟩
        · obtain ⟨-, rfl⟩ := EStateM.Result.ok.inj (fillsTo.symm.trans fills)
          exact ⟨text, _, making, located, free, rfl,
            early.trans (sameApart_put_file stillFree _), renames⟩
        · exact absurd (refused.symm.trans fills) (by simp)
  · exact absurd (refused.symm.trans opens) (by simp)

theorem written_of_write (writes : store.write record network before = .ok () after) :
    Written store record network before after := by
  have saves := save_of_write writes
  rcases save_cases store record network before with
    ⟨later, text, saved, directory, written, content, apart⟩ | ⟨error, later, failed, -⟩
  · obtain ⟨-, rfl⟩ := EStateM.Result.ok.inj (saved.symm.trans saves)
    exact ⟨directory, ⟨text, written, content⟩, apart⟩
  · exact absurd (failed.symm.trans saves) (by simp)

/-- A write that fails leaves traces at the place of the temporary file only, apart
from new directories. -/
theorem sameApart_of_write_error {fault : Fault}
    (refuses : store.write record network before = .error fault after) :
    SameApart [(store.temporaryPath network).place] (store.made before) after := by
  rcases save_cases store record network before with
    ⟨later, text, saved, -⟩ | ⟨error, later, failed, apart⟩
  · rw [write_of_saved saved] at refuses
    simp at refuses
  · rw [write_of_unsaved failed] at refuses
    have discarded := sameApart_discard store network later
    cases discards : store.discard network later with
    | ok _ cleared =>
        rw [discards] at refuses discarded
        obtain ⟨-, rfl⟩ := EStateM.Result.error.inj refuses
        exact apart.trans discarded
    | error complaint left =>
        rw [discards] at refuses discarded
        obtain ⟨-, rfl⟩ := EStateM.Result.error.inj refuses
        exact apart.trans discarded

/-! ### Reading after a write -/

theorem Written.read_of_faithful (written : Written store record network before after)
    (faithful : Json.Faithful (.object record.fields)) :
    store.read after network = .ok ⟨network, record.fields⟩ := by
  obtain ⟨text, writes, content⟩ := written.content
  have decoded := Json.ofBytes_write Json.spaced_indented faithful writes
  exact read_ok.mpr (.inr ⟨_, record.fields, content, decoded, rfl⟩)

theorem Written.read (written : Written store record network before after)
    (storable : record.Storable) : store.read after network = .ok ⟨network, record.fields⟩ :=
  written.read_of_faithful storable.faithful

theorem Written.made (written : Written store record network before after) :
    store.made after = after :=
  made_of_hasDirectory (written.directory.mono written.apart.directories.keeps)

/-- After a write that works or fails the directory of the store is there, if it can be
made at all. -/
theorem hasDirectory_of_write
    (made : makeDirectories store.path before = .ok () (store.made before))
    (record : NetworkRecord) (network : Json) :
    (finalState (store.write record network before)).HasDirectory store.path := by
  have there := hasDirectory_makeDirectories made
  cases writes : store.write record network before with
  | ok _ after => exact there.mono (written_of_write writes).apart.directories.keeps
  | error fault after => exact there.mono (sameApart_of_write_error writes).directories.keeps

/-- After a write that fails the record is read as once the directory of the store has
been made. -/
theorem read_of_write_error {fault : Fault}
    (refuses : store.write record network before = .error fault after) :
    store.read after network = store.read (store.made before) network := by
  have apart := sameApart_of_write_error refuses
  have outer : (store.recordPath network).place ∉ [(store.temporaryPath network).place] := by
    simpa using store.recordPlace_ne_temporaryPlace network
  exact (read_congr apart.directories (apart.outside _ outer).symm).symm

theorem Written.content_other (written : Written store record network before after) {path : Path}
    (outer : path.place ∉
      [(store.recordPath network).place, (store.temporaryPath network).place])
    {bytes : ByteArray} (found : before.content path = .ok bytes) :
    after.content path = .ok bytes :=
  written.apart.content outer ((store.grows_made before).content found)

theorem content_of_write_error {fault : Fault}
    (refuses : store.write record network before = .error fault after) {path : Path}
    (outer : path.place ≠ (store.temporaryPath network).place) {bytes : ByteArray}
    (found : before.content path = .ok bytes) : after.content path = .ok bytes := by
  have made := (store.grows_made before).content found
  exact (sameApart_of_write_error refuses).content (by simpa using outer) made

theorem content_of_read (reads : store.read tree network = .ok record)
    (filled : record.fields ≠ []) :
    ∃ bytes, tree.content (store.recordPath network) = .ok bytes ∧
      Json.ofBytes bytes = .ok (.object record.fields) := by
  rcases read_ok.mp reads with ⟨-, rfl⟩ | ⟨bytes, fields, content, decoded, rfl⟩
  · exact absurd rfl filled
  · exact ⟨bytes, content, decoded⟩

end ArtifactStore

end ContractRollout
