import ContractRollout.Proofs.FileTree.Directories
import ContractRollout.Proofs.Json.Foreign
import ContractRollout.Proofs.Record.Kept
import ContractRollout.Proofs.Record.Leftovers
import ContractRollout.Proofs.Record.Names
import ContractRollout.Proofs.Record.Writable

/-!
# The store as a map

A store maps networks to the records that were last saved for them. Records with foreign
parts are refused and change nothing; all others are saved. After any number of writes
the directory of the store has one file for each network that was saved, and no others.

The paths of all files have to be short enough for the system. A directory can be so deep
that it can be made but no file can be put into it. The values in a record, however, may be
nested to any depth, as for `Json.write` and `Json.read`: what is put on the stack is not
counted.
-/

namespace ContractRollout

open FileTree

/-- A record that is written, and the network that it is written for. -/
structure Save where
  record : NetworkRecord
  network : String

/-- A save works if the record has no foreign parts. -/
def Save.works (save : Save) : Bool := !(Json.object save.record.fields).holdsForeign

/-- The fields that were saved last for a network. -/
def lastSaved (saves : List Save) (network : String) : Option Members :=
  (saves.filter fun save => save.works && save.network = network).getLast?.map
    (·.record.fields)

theorem lastSaved_append (saves : List Save) (save : Save) (network : String) :
    lastSaved (saves ++ [save]) network =
      if save.works = true ∧ save.network = network then some save.record.fields
      else lastSaved saves network := by
  unfold lastSaved
  by_cases last : save.works = true ∧ save.network = network
  · simp [List.filter_append, last]
  · have passed : (save.works && decide (save.network = network)) = false := by
      simpa [Bool.and_eq_false_iff, or_iff_not_imp_left] using last
    simp [List.filter_append, last, passed]

theorem lastSaved_isSome {saves : List Save} {network : String} :
    (lastSaved saves network).isSome ↔
      ∃ save ∈ saves, save.works = true ∧ save.network = network := by
  unfold lastSaved
  rw [Option.isSome_map, List.getLast?_isSome]
  simp [List.filter_eq_nil_iff]

namespace ArtifactStore

variable {store : ArtifactStore} {files after : FileTree} {table : String → Option Members}
  {name network : String} {record : NetworkRecord}

/-- The files after some writes, whether they work or not. -/
def filesAfterSaves (store : ArtifactStore) (files : FileTree) (saves : List Save) : FileTree :=
  saves.foldl
    (fun files save => finalState (store.write save.record (.string save.network) files)) files

theorem filesAfterSaves_append (store : ArtifactStore) (files : FileTree) (saves : List Save)
    (save : Save) :
    store.filesAfterSaves files (saves ++ [save]) =
      finalState (store.write save.record (.string save.network)
        (store.filesAfterSaves files saves)) := by
  simp [filesAfterSaves]

/-- A store whose directory is empty or can be made. -/
structure Fresh (store : ArtifactStore) (files : FileTree) : Prop where
  plain : ".." ∉ store.path.parts
  directory : makeDirectories store.path files = .ok () (store.made files)
  vacant : ∀ name, files.entryAt (store.path.place.child name) = none

/-- In the directory of a store stand the records of a table and nothing else. -/
structure Catalogued (store : ArtifactStore) (files : FileTree)
    (table : String → Option Members) : Prop where
  directory : makeDirectories store.path files = .ok () (store.made files)
  plain : ∀ network fields, table network = some fields → '/' ∉ network.toList
  recorded : ∀ network fields, table network = some fields →
    ∃ bytes, files.content (store.recordPath (.string network)) = .ok bytes ∧
      Json.ofBytes bytes = .ok (.object fields)
  only : ∀ name, files.entryAt (store.path.place.child name) ≠ none →
    ∃ network, name = network ++ ".json" ∧ (table network).isSome

theorem Fresh.catalogued (fresh : store.Fresh files) : store.Catalogued files fun _ => none where
  directory := fresh.directory
  plain := nofun
  recorded := nofun
  only name stands := absurd (fresh.vacant name) stands

theorem json_injective {first second : String} (same : first ++ ".json" = second ++ ".json") :
    first = second := by
  have names := congrArg String.toList same
  rw [String.toList_append, String.toList_append] at names
  exact String.toList_inj.mp (List.append_cancel_right names)

/-! ### One catalogue -/

/-- Nothing is found at a path that will lead to an empty place once more directories are
there. -/
theorem find?_of_absent {path : Path} {before : FileTree} (kept : KeepsDirectories before after)
    (located : after.locate path = .ok path.place) (absent : before.entryAt path.place = none) :
    before.find? path = .ok none := by
  obtain ⟨acceptable, walks⟩ := locate_ok.mp located
  simp only [find?, locate_eq, acceptable.1, if_neg (Nat.not_le_of_lt acceptable.2)]
  cases early : before.walk path.start path.parts with
  | ok place =>
      rw [walk_place early]
      exact congrArg Except.ok absent
  | error problem =>
      have short : problem ≠ .nameTooLong := by
        rintro rfl
        rw [walk_tooLong_mono kept early] at walks
        simp at walks
      cases problem <;> simp_all [Except.mapError]

theorem Catalogued.file (catalogued : store.Catalogued files table) {fields : Members}
    (held : table network = some fields) :
    ∃ bytes, files.entryAt (store.path.place.child (network ++ ".json")) = some (.file bytes) := by
  obtain ⟨bytes, content, -⟩ := catalogued.recorded network fields held
  rw [← store.recordPlace_of_plain (catalogued.plain network fields held)]
  exact ⟨bytes, (content_ok.mp content).2⟩

/-- What stands in the directory is a file. -/
theorem Catalogued.file_of_entry (catalogued : store.Catalogued files table) {entry : Entry}
    (stands : files.entryAt (store.path.place.child name) = some entry) :
    ∃ bytes, entry = .file bytes := by
  obtain ⟨network, rfl, some⟩ := catalogued.only name (by simp [stands])
  obtain ⟨fields, held⟩ := Option.isSome_iff_exists.mp some
  obtain ⟨bytes, file⟩ := catalogued.file held
  exact ⟨bytes, Option.some.inj (stands.symm.trans file)⟩

theorem Catalogued.temporaryFree (catalogued : store.Catalogued files table) (stem : String) :
    files.entryAt (store.path.place.child (stem ++ ".json.tmp")) = none := by
  by_contra stands
  obtain ⟨other, same, -⟩ := catalogued.only _ stands
  exact endings_ne other stem same.symm

/-- What is read of a network is what the table has for it. -/
theorem Catalogued.read (catalogued : store.Catalogued files table) (names : store.Names name) :
    store.read files (.string name) = .ok ⟨.string name, (table name).getD []⟩ := by
  cases held : table name with
  | some fields =>
      obtain ⟨bytes, content, decoded⟩ := catalogued.recorded name fields held
      exact read_ok.mpr (.inr ⟨bytes, fields, content, decoded, rfl⟩)
  | none =>
      have absent : files.entryAt (store.recordPath (.string name)).place = none := by
        by_contra stands
        rw [store.recordPlace_of_plain names.plain] at stands
        obtain ⟨other, same, some⟩ := catalogued.only _ stands
        obtain rfl := json_injective same
        simp [held] at some
      have located := (names.locate (hasDirectory_makeDirectories catalogued.directory)).1
      have finds := find?_of_absent (store.grows_made files).keeps located absent
      refine read_ok.mpr (.inl ⟨?_, rfl⟩)
      rw [holds, finds]
      rfl

/-! ### Writes -/

/-- Making the directory of the store puts nothing into it. -/
theorem entryAt_made (plain : ".." ∉ store.path.parts) (files : FileTree) (name : String) :
    (store.made files).entryAt (store.path.place.child name) =
      files.entryAt (store.path.place.child name) := by
  apply entryAt_makeDirectoriesAt store.path.rooting plain files
  have names : store.path.place.names = store.path.parts := Path.names_place plain
  simp [Place.child, names]

theorem Catalogued.made (catalogued : store.Catalogued files table)
    (simple : ".." ∉ store.path.parts) : store.Catalogued (store.made files) table where
  directory := by
    have there := hasDirectory_makeDirectories catalogued.directory
    rw [made_of_hasDirectory there, makeDirectories_of_hasDirectory there]
  plain := catalogued.plain
  recorded network fields held := by
    obtain ⟨bytes, content, decoded⟩ := catalogued.recorded network fields held
    exact ⟨bytes, (store.grows_made files).content content, decoded⟩
  only name stands := by
    rw [entryAt_made simple] at stands
    exact catalogued.only name stands

theorem Catalogued.writable (catalogued : store.Catalogued files table)
    (simple : ".." ∉ store.path.parts) (names : store.Names name) :
    store.Writable (.string name) files := by
  have ready := catalogued.made simple
  obtain ⟨record, temporary⟩ := names.locate (hasDirectory_makeDirectories catalogued.directory)
  refine ⟨catalogued.directory, record, temporary, ?_, ?_⟩
  · rw [store.recordPlace_of_plain names.plain]
    intro directory
    obtain ⟨bytes, file⟩ := ready.file_of_entry directory
    simp at file
  · rw [store.temporaryPlace_of_plain names.plain, ready.temporaryFree]
    simp

/-- A write that fails keeps the records of the table and leaves no temporary file. -/
theorem Catalogued.write_error (catalogued : store.Catalogued files table)
    (simple : ".." ∉ store.path.parts) (names : store.Names name) {report : PersistenceFault}
    (refuses : store.write record (.string name) files = .error (.persistence report) after) :
    store.Catalogued after table := by
  have there : after.HasDirectory store.path := by
    have made := hasDirectory_of_write catalogued.directory record (.string name)
    rwa [refuses, finalState_error] at made
  have apart := sameApart_of_write_error refuses
  have cleared : after.entryAt (store.temporaryPath (.string name)).place = none := by
    have finds := find?_temporary_of_unsaved refuses
    rw [find?, (names.locate there).2] at finds
    exact Except.ok.inj finds
  have ready := catalogued.made simple
  refine ⟨?_, catalogued.plain, ?_, ?_⟩
  · rw [made_of_hasDirectory there, makeDirectories_of_hasDirectory there]
  · intro network fields held
    obtain ⟨bytes, content, decoded⟩ := ready.recorded network fields held
    have outer := store.recordPlace_ne_temporaryPlace_of_plain
      (catalogued.plain network fields held) names.plain
    exact ⟨bytes, apart.content (by simpa using outer) content, decoded⟩
  · intro other stands
    apply ready.only other
    rwa [← apart.outside]
    rw [List.mem_singleton]
    intro same
    rw [same] at stands
    exact stands cleared

/-- A write that works puts its record into the table. -/
theorem Catalogued.write_ok (catalogued : store.Catalogued files table)
    (simple : ".." ∉ store.path.parts) (names : store.Names name) (storable : record.Storable)
    (writes : store.write record (.string name) files = .ok () after) :
    store.Catalogued after fun network =>
      if network = name then some record.fields else table network := by
  have written := written_of_write writes
  have there := written.directory.mono written.apart.directories.keeps
  refine ⟨?_, ?_, ?_, ?_⟩
  · rw [written.made, makeDirectories_of_hasDirectory there]
  · intro network fields held
    by_cases same : network = name
    · exact same ▸ names.plain
    · exact catalogued.plain network fields (by simpa [same] using held)
  · intro network fields held
    by_cases same : network = name
    · subst same
      obtain rfl : record.fields = fields := by simpa using held
      obtain ⟨text, encoded, content⟩ := written.content
      exact ⟨_, content, Json.ofBytes_write Json.spaced_indented storable.faithful
        encoded⟩
    · have older : table network = some fields := by simpa [same] using held
      obtain ⟨bytes, content, decoded⟩ := catalogued.recorded network fields older
      have plain := catalogued.plain network fields older
      exact ⟨bytes, written.content_other (recordPlace_outside plain names.plain same) content,
        decoded⟩
  · intro other stands
    by_cases own : store.path.place.child other = (store.recordPath (.string name)).place
    · rw [store.recordPlace_of_plain names.plain] at own
      exact ⟨name, Place.child_injective own, by simp⟩
    · have passing :
          store.path.place.child other ≠ (store.temporaryPath (.string name)).place := by
        intro same
        rw [same] at stands
        exact stands (entryAt_temporary_of_write writes)
      rw [written.apart.outside _ (by simp [own, passing])] at stands
      obtain ⟨network, rfl, some⟩ := (catalogued.made simple).only other stands
      refine ⟨network, rfl, ?_⟩
      split <;> simp [some]

/-- A record with foreign parts is refused, and all others are saved. -/
theorem Catalogued.write (catalogued : store.Catalogued files table)
    (simple : ".." ∉ store.path.parts) (names : store.Names name) (recordable : Json.Recordable (.object record.fields)) :
    if (Json.object record.fields).holdsForeign then
      ∃ report after, store.write record (.string name) files = .error (.persistence report) after ∧
        store.Catalogued after table
    else
      ∃ after, store.write record (.string name) files = .ok () after ∧
        store.Catalogued after fun network =>
          if network = name then some record.fields else table network := by
  have writable := catalogued.writable simple names
  split
  · rename_i other
    obtain ⟨kind, fails⟩ := recordable.failsForeign other .indented 0
    cases writes : store.write record (.string name) files with
    | ok _ after =>
        obtain ⟨text, encoded, -⟩ := (written_of_write writes).content
        exact absurd (fails.symm.trans encoded) (by simp)
    | error fault after =>
        have clearable : (store.made files).Clearable (store.temporaryPath (.string name)) :=
          ⟨_, by rw [find?, writable.temporary], writable.temporaryFree⟩
        rcases write_error_cases writes with ⟨-, cause, rfl⟩ | ⟨stuck, -⟩
        · exact ⟨_, after, rfl, catalogued.write_error simple names writes⟩
        · exact absurd clearable stuck
  · rename_i own
    have storable : record.Storable :=
      ⟨recordable.legible (by simpa using own), recordable.floatFree⟩
    obtain ⟨after, writes, -⟩ := writable.write storable
    exact ⟨after, writes, catalogued.write_ok simple names storable writes⟩

/-! ### Many writes -/

theorem Fresh.catalogued_saves (fresh : store.Fresh files) {saves : List Save}
    (named : ∀ save ∈ saves, store.Names save.network)
    (recordable : ∀ save ∈ saves, Json.Recordable (.object save.record.fields)) :
    store.Catalogued (store.filesAfterSaves files saves) (lastSaved saves) := by
  induction saves using List.reverseRecOn with
  | nil => exact fresh.catalogued
  | append_singleton saves save ih =>
      have catalogued := ih (fun other member => named other (by simp [member]))
        fun other member => recordable other (by simp [member])
      have writes := catalogued.write fresh.plain (named save (by simp))
        (recordable save (by simp))
      rw [filesAfterSaves_append]
      have table : lastSaved (saves ++ [save]) = fun network =>
          if save.works = true ∧ save.network = network then some save.record.fields
          else lastSaved saves network :=
        funext (lastSaved_append saves save)
      rw [table]
      split at writes
      · rename_i other
        obtain ⟨report, after, fails, kept⟩ := writes
        rw [fails, finalState_error]
        simpa [Save.works, other] using kept
      · rename_i own
        obtain ⟨after, works, added⟩ := writes
        rw [works, finalState_ok]
        simpa [Save.works, own, eq_comm] using added

/-- The store is a map from networks to the fields that were last saved for them. A write
fails exactly if its record has a foreign part. In the directory there is one file for each
network that was saved. Nesting is unbounded. -/
theorem saves_as_map (fresh : store.Fresh files) {saves : List Save}
    (named : ∀ save ∈ saves, store.Names save.network)
    (recordable : ∀ save ∈ saves, Json.Recordable (.object save.record.fields)) :
    (∀ earlier save later, saves = earlier ++ save :: later →
      (save.works = true → ∃ after, store.write save.record (.string save.network)
        (store.filesAfterSaves files earlier) = .ok () after) ∧
      (save.works = false → ∃ report after, store.write save.record (.string save.network)
        (store.filesAfterSaves files earlier) = .error (.persistence report) after)) ∧
    (∀ network, store.Names network →
      store.read (store.filesAfterSaves files saves) (.string network) =
        .ok ⟨.string network, (lastSaved saves network).getD []⟩) ∧
    ∀ name,
      ((∃ bytes, (store.filesAfterSaves files saves).entryAt (store.path.place.child name) =
          some (.file bytes)) ↔
        ∃ save ∈ saves, save.works = true ∧ name = save.network ++ ".json") ∧
      (store.filesAfterSaves files saves).entryAt (store.path.place.child name) ≠
        some .directory := by
  refine ⟨?_, ?_, ?_⟩
  · rintro earlier save later rfl
    have catalogued : store.Catalogued (store.filesAfterSaves files earlier) (lastSaved earlier) :=
      fresh.catalogued_saves (fun other member => named other (by simp [member]))
        fun other member => recordable other (by simp [member])
    have writes := catalogued.write fresh.plain (named save (by simp))
      (recordable save (by simp))
    split at writes
    · rename_i other
      obtain ⟨report, after, fails, -⟩ := writes
      exact ⟨fun works => by simp [Save.works, other] at works, fun _ => ⟨report, after, fails⟩⟩
    · rename_i own
      obtain ⟨after, works, -⟩ := writes
      exact ⟨fun _ => ⟨after, works⟩, fun fails => by simp [Save.works, own] at fails⟩
  · intro network names
    exact (fresh.catalogued_saves named recordable).read names
  · intro name
    have catalogued := fresh.catalogued_saves named recordable
    refine ⟨⟨?_, ?_⟩, ?_⟩
    · rintro ⟨bytes, file⟩
      obtain ⟨network, rfl, some⟩ := catalogued.only name (by simp [file])
      obtain ⟨save, member, works, rfl⟩ := lastSaved_isSome.mp some
      exact ⟨save, member, works, rfl⟩
    · rintro ⟨save, member, works, rfl⟩
      have some : (lastSaved saves save.network).isSome :=
        lastSaved_isSome.mpr ⟨save, member, works, rfl⟩
      obtain ⟨fields, held⟩ := Option.isSome_iff_exists.mp some
      exact catalogued.file held
    · intro directory
      obtain ⟨bytes, file⟩ := catalogued.file_of_entry directory
      simp at file

/-- The store at a relative path. -/
def below (parts : List String) : ArtifactStore := { path := ⟨.relative, parts⟩ }

theorem fresh_below {parts : List String} (plain : ".." ∉ parts)
    (acceptable : Acceptable ⟨.relative, parts⟩)
    (short : ∀ part ∈ parts, part.utf8ByteSize ≤ nameLimit) : (below parts).Fresh .empty where
  plain := plain
  directory := by
    obtain ⟨after, made⟩ := makeDirectoriesAt_empty plain acceptable short
    have makes : makeDirectories (below parts).path .empty = .ok () after := made
    rw [ArtifactStore.made, makes, finalState_ok]
  vacant _ := by simp [entryAt, FileTree.empty, Place.child]

/-- Three saves, of which the second one is refused. -/
def sampleSaves : List Save :=
  [⟨⟨.string "a.json", [("first", .string "terra1first"), ("more", .array [.null])]⟩, "a.json"⟩,
    ⟨⟨.string "a.json", [("first", .array [.foreign "object" "<object>"])]⟩, "a.json"⟩,
    ⟨⟨.string "", [("only", .bool true)]⟩, ""⟩]

theorem saves_as_map_sample :
    ((below ["records"]).Fresh .empty ∧
      (∀ save ∈ sampleSaves, (below ["records"]).Names save.network) ∧
      ∀ save ∈ sampleSaves, Json.Recordable (.object save.record.fields)) ∧
    (below ["records"]).read ((below ["records"]).filesAfterSaves .empty sampleSaves)
        (.string "a.json") =
      .ok ⟨.string "a.json", [("first", .string "terra1first"), ("more", .array [.null])]⟩ := by
  have fresh : (below ["records"]).Fresh .empty :=
    fresh_below (by decide) ⟨by decide, by decide⟩ (by decide)
  have first : (below ["records"]).Names "a.json" :=
    ⟨by decide, by decide, by decide, by decide +kernel⟩
  have unnamed : (below ["records"]).Names "" :=
    ⟨by decide, by decide, by decide, by decide +kernel⟩
  have named : ∀ save ∈ sampleSaves, (below ["records"]).Names save.network := by
    simp [sampleSaves, first, unnamed]
  have recordable : ∀ save ∈ sampleSaves, Json.Recordable (.object save.record.fields) := by
    simp only [sampleSaves, List.forall_mem_cons]
    refine ⟨.object (by decide) ?_, .object (by decide) ?_, .object (by decide) ?_, nofun⟩
    · simp only [List.forall_mem_cons]
      exact ⟨.string _, .array (by simpa using .null), nofun⟩
    · simp only [List.forall_mem_cons]
      exact ⟨.array (by simpa using .foreign _ _), nofun⟩
    · simp only [List.forall_mem_cons]
      exact ⟨.bool true, nofun⟩
  obtain ⟨-, reads, -⟩ := saves_as_map fresh named recordable
  exact ⟨⟨fresh, named, recordable⟩, reads "a.json" first⟩

/-! ### A directory too deep for files -/

/-- A store whose path is almost as long as the system takes. -/
def deepStore : ArtifactStore := below (List.replicate 18 (String.ofList (List.replicate 226 'd')))

theorem acceptable_deepStore : Acceptable deepStore.path := by
  have size : deepStore.path.toString.utf8ByteSize < pathLimit := by decide +kernel
  refine ⟨?_, size⟩
  have solid : '\x00' ∉ deepStore.path.toString.toList := by
    apply Path.not_mem_toString (by decide) (by decide)
    intro part member
    rw [List.eq_of_mem_replicate member, String.toList_ofList]
    exact fun inside => absurd (List.eq_of_mem_replicate inside) (by decide)
  simpa using solid

theorem acceptable_of_write (writes : store.write record (.string name) files = .ok () after) :
    Acceptable (store.temporaryPath (.string name)) := by
  obtain ⟨text, filled, -, located, -⟩ := saved_through (save_of_write writes)
  exact (locate_ok.mp located).1

theorem not_saved_of_deepStore :
    deepStore.Fresh .empty ∧
      ('/' ∉ "n".toList ∧ '\x00' ∉ "n".toList ∧ "n".utf8ByteSize ≤ 246) ∧
      (Json.Recordable (.object [("k", .string "v")]) ∧
        (Json.object [("k", .string "v")]).holdsForeign = false) ∧
      ∀ after, deepStore.write ⟨.string "n", [("k", .string "v")]⟩ (.string "n") .empty ≠
        .ok () after := by
  have plain : ".." ∉ deepStore.path.parts := by decide +kernel
  have short : ∀ part ∈ deepStore.path.parts, part.utf8ByteSize ≤ nameLimit := by decide +kernel
  refine ⟨fresh_below plain acceptable_deepStore short, by decide,
    ⟨.object (by decide) (by simpa using .string "v"), rfl⟩, ?_⟩
  intro after writes
  have long : ¬ (deepStore.temporaryPath (.string "n")).toString.utf8ByteSize < pathLimit := by
    decide +kernel
  exact long (acceptable_of_write writes).2

end ArtifactStore

end ContractRollout
