import ContractRollout.Proofs.Record.Store

/-!
# What writes leave behind

A write that works has renamed its temporary file, and one that fails clears it away
before it tells why. Clearing works unless a directory is in the place of the temporary
file or a name on the way is too long; what the system objects to then takes the place
of the first fault.
-/

namespace ContractRollout

open FileTree

variable {first second tree : FileTree} {path : Path}

theorem find?_ok_some {entry : Entry} :
    tree.find? path = .ok (some entry) ↔
      tree.locate path = .ok path.place ∧ tree.entryAt path.place = some entry := by
  unfold find?
  cases located : tree.locate path with
  | ok place =>
      obtain rfl := locate_place located
      simp
  | error error => split <;> simp_all

/-- The system can tell what is at a path, and it is no directory. -/
def FileTree.Clearable (tree : FileTree) (path : Path) : Prop :=
  ∃ found, tree.find? path = .ok found ∧ found ≠ some .directory

theorem clearable_congr (same : SameDirectories first second)
    (clearable : first.Clearable path) : second.Clearable path := by
  obtain ⟨found, finds, apart⟩ := clearable
  simp only [Clearable, find?, locate_eq] at finds ⊢
  by_cases null : path.toString.toList.contains '\x00' = true
  · exact ⟨none, by rw [if_pos null], by simp⟩
  rw [if_neg null] at finds ⊢
  by_cases long : pathLimit ≤ path.toString.utf8ByteSize
  · simp [long] at finds
  rw [if_neg long] at finds ⊢
  cases walks : first.walk path.start path.parts with
  | ok place =>
      rw [walks] at finds
      obtain rfl : first.entryAt place = found := Except.ok.inj finds
      rw [walk_mono same.keeps walks]
      exact ⟨second.entryAt place, rfl, mt (same place).mpr apart⟩
  | error problem =>
      cases others : second.walk path.start path.parts with
      | ok place =>
          rw [walk_mono same.symm.keeps others] at walks
          simp at walks
      | error other =>
          have short : other ≠ .nameTooLong := by
            rintro rfl
            rw [walk_tooLong_mono same.symm.keeps others] at walks
            obtain rfl := Except.error.inj walks
            rw [walk_tooLong_mono same.symm.keeps others] at finds
            simp [Except.mapError] at finds
          refine ⟨none, ?_, by simp⟩
          cases other <;> simp_all [Except.mapError]

namespace ArtifactStore

variable {store : ArtifactStore} {record : NetworkRecord} {network : Json}
  {before after : FileTree} {fault : Fault}

theorem query_holds {found : Option Entry} (finds : tree.find? path = .ok found) :
    query (·.holds path) tree = .ok found.isSome tree := by
  rw [query_eq, holds, finds]
  rfl

theorem discard_of_clearable (clearable : tree.Clearable (store.temporaryPath network)) :
    ∃ after, store.discard network tree = .ok () after := by
  obtain ⟨found, finds, apart⟩ := clearable
  unfold discard
  rw [bind_of_ok (query_holds finds)]
  cases found with
  | none => exact ⟨tree, rfl⟩
  | some entry =>
      obtain ⟨located, stands⟩ := find?_ok_some.mp finds
      cases entry with
      | directory => exact absurd rfl apart
      | file content =>
          refine ⟨tree.erase (store.temporaryPath network).place, ?_⟩
          simp only [Option.isSome_some, if_true, removeFile, bind, EStateM.bind, query_eq, located,
            get, getThe, MonadStateOf.get, EStateM.get, stands]
          rfl

theorem discard_of_not_clearable (stuck : ¬ tree.Clearable (store.temporaryPath network)) :
    ∃ error, store.discard network tree = .error error tree := by
  unfold discard
  cases finds : tree.find? (store.temporaryPath network) with
  | error error =>
      refine ⟨error, bind_of_error ?_⟩
      rw [query_eq, holds, finds]
      rfl
  | ok found =>
      have directory : found = some .directory := by
        by_contra apart
        exact stuck ⟨found, finds, apart⟩
      subst directory
      rw [bind_of_ok (query_holds finds)]
      rcases removeFile_cases (store.temporaryPath network) tree with ⟨apart, -⟩ | failed
      · exact absurd (find?_ok_some.mp finds).2 apart
      · exact failed

theorem find?_of_discard (discards : store.discard network tree = .ok () after) :
    after.find? (store.temporaryPath network) = .ok none := by
  cases finds : tree.find? (store.temporaryPath network) with
  | error error =>
      have stuck : ¬ tree.Clearable (store.temporaryPath network) := by
        rintro ⟨found, finds', -⟩
        rw [finds] at finds'
        simp at finds'
      obtain ⟨error, fails⟩ := discard_of_not_clearable stuck
      simp [fails] at discards
  | ok found =>
      unfold discard at discards
      rw [bind_of_ok (query_holds finds)] at discards
      cases found with
      | none =>
          obtain ⟨-, rfl⟩ := EStateM.Result.ok.inj discards
          exact finds
      | some entry =>
          rcases removeFile_cases (store.temporaryPath network) tree with
            ⟨apart, removed⟩ | ⟨error, failed⟩
          · obtain ⟨-, rfl⟩ := EStateM.Result.ok.inj (removed.symm.trans discards)
            have kept := (sameApart_erase apart).directories.keeps
            have located := locate_mono kept (find?_ok_some.mp finds).1
            rw [find?, located]
            exact congrArg Except.ok (entryAt_erase_self tree (names_ne_nil apart))
          · exact absurd (failed.symm.trans discards) (by simp)

/-- A write that fails reports the record as not saved if its temporary file can be cleared
away, and ends with the complaint of the file system if not. -/
theorem write_error_cases (refuses : store.write record network before = .error fault after) :
    ((store.made before).Clearable (store.temporaryPath network) ∧
      ∃ cause, fault = .persistence ⟨cause, network, "", .string ""⟩) ∨
    (¬ (store.made before).Clearable (store.temporaryPath network) ∧
      ∃ error, fault = .file error) := by
  rcases save_cases store record network before with
    ⟨later, text, saved, -⟩ | ⟨error, later, failed, apart⟩
  · rw [write_of_saved saved] at refuses
    simp at refuses
  rw [write_of_unsaved failed] at refuses
  by_cases clearable : (store.made before).Clearable (store.temporaryPath network)
  · obtain ⟨cleared, discards⟩ :=
      discard_of_clearable (clearable_congr apart.directories clearable)
    rw [discards] at refuses
    exact .inl ⟨clearable, _, (EStateM.Result.error.inj refuses).1.symm⟩
  · have stuck : ¬ later.Clearable (store.temporaryPath network) :=
      mt (clearable_congr apart.directories.symm) clearable
    obtain ⟨complaint, fails⟩ := discard_of_not_clearable stuck
    rw [fails] at refuses
    exact .inr ⟨clearable, complaint, (EStateM.Result.error.inj refuses).1.symm⟩

/-- After a record is reported as not saved nothing is left of its temporary file. -/
theorem find?_temporary_of_unsaved {report : PersistenceFault}
    (refuses : store.write record network before = .error (.persistence report) after) :
    after.find? (store.temporaryPath network) = .ok none := by
  cases saves : store.save record network before with
  | ok _ later =>
      rw [write_of_saved saves] at refuses
      simp at refuses
  | error error later =>
      rw [write_of_unsaved saves] at refuses
      cases discards : store.discard network later with
      | error complaint left =>
          rw [discards] at refuses
          simp at refuses
      | ok _ cleared =>
          rw [discards] at refuses
          obtain ⟨-, rfl⟩ := EStateM.Result.error.inj refuses
          exact find?_of_discard discards

/-- The temporary file of a record that was saved is gone, since it became the record. -/
theorem entryAt_temporary_of_write (writes : store.write record network before = .ok () after) :
    after.entryAt (store.temporaryPath network).place = none := by
  obtain ⟨text, filled, -, -, -, -, -, renames⟩ := saved_through (save_of_write writes)
  rcases renameFile_cases (store.temporaryPath network) (store.recordPath network) filled with
    ⟨entry, -, -, -, renamed⟩ | ⟨error, failed⟩
  · obtain ⟨-, rfl⟩ := EStateM.Result.ok.inj (renamed.symm.trans renames)
    obtain ⟨rooting, name, other, outer, -, temporary⟩ := store.paths_eq network
    have named : (store.temporaryPath network).place.names ≠ [] := by
      rw [temporary, Path.place_cons outer (temporary_ne_parent other)]
      exact List.cons_ne_nil _ _
    rw [entryAt_put_of_ne _ (store.recordPlace_ne_temporaryPlace network).symm,
      entryAt_erase_self _ named]
  · exact absurd (failed.symm.trans renames) (by simp)

end ArtifactStore

end ContractRollout
