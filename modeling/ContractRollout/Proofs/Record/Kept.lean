import ContractRollout.Proofs.Record.Store

/-!
# What writes keep

A write of one network leaves the stored records of other networks alone, and it only
adds to that of its own. So no doubles come into the stored records, and a populated
field stays populated with its value.
-/

namespace ContractRollout

open FileTree

variable {store : ArtifactStore} {before after files : FileTree} {network : Json}
  {record : NetworkRecord} {field : String} {address : Json}

namespace ArtifactStore

/-- The stored record of a network, if there is one, has no doubles in it. -/
def HoldsFloatFree (store : ArtifactStore) (files : FileTree) (network : Json) : Prop :=
  ∀ bytes fields, files.entryAt (store.recordPath network).place = some (.file bytes) →
    Json.ofBytes bytes = .ok (.object fields) → Json.FloatFree (.object fields)

/-- The stored record of a network has an address for a field. -/
def Populated (store : ArtifactStore) (files : FileTree) (network : Json) (field : String)
    (address : Json) : Prop :=
  ∃ record, store.read files network = .ok record ∧ record.get? field = some address

theorem Populated.held (populated : store.Populated files network field address)
    (reads : store.read files network = .ok record) :
    record.fields.value field = address ∧ address.isTruthy = true := by
  obtain ⟨stored, readsStored, held⟩ := populated
  obtain rfl := read_unique reads readsStored
  exact NetworkRecord.get?_eq_some.mp held

/-- The stored record of a network has an address for a field, and writing it again
would not change it. -/
def Settled (store : ArtifactStore) (files : FileTree) (network : Json) (field : String)
    (address : Json) : Prop :=
  ∃ record, store.read files network = .ok record ∧ record.Storable ∧
    record.get? field = some address

theorem Settled.populated (settled : store.Settled files network field address) :
    store.Populated files network field address := by
  obtain ⟨record, reads, -, held⟩ := settled
  exact ⟨record, reads, held⟩

theorem holdsFloatFree_empty (store : ArtifactStore) (network : Json) :
    store.HoldsFloatFree .empty network := by
  intro bytes fields file
  simp only [entryAt, FileTree.empty] at file
  split at file <;> simp at file

theorem HoldsFloatFree.storable (floatFree : store.HoldsFloatFree files network)
    (reads : store.read files network = .ok record) : record.Storable := by
  refine ⟨(read_legible reads).2, ?_⟩
  rcases read_ok.mp reads with ⟨-, rfl⟩ | ⟨bytes, fields, content, decoded, rfl⟩
  · exact (NetworkRecord.storable_empty network).floatFree
  · exact floatFree bytes fields (content_ok.mp content).2 decoded

theorem HoldsFloatFree.settled (floatFree : store.HoldsFloatFree files network)
    (populated : store.Populated files network field address) :
    store.Settled files network field address := by
  obtain ⟨record, reads, held⟩ := populated
  exact ⟨record, reads, floatFree.storable reads, held⟩

theorem HoldsFloatFree.grow (floatFree : store.HoldsFloatFree before network)
    (grows : Grows before after) : store.HoldsFloatFree after network := by
  intro bytes fields file decoded
  rcases grows (store.recordPath network).place with same | ⟨-, directory⟩
  · exact floatFree bytes fields (same.symm.trans file) decoded
  · simp [directory] at file

theorem HoldsFloatFree.apart {places : List Place}
    (floatFree : store.HoldsFloatFree before network) (same : SameApart places before after)
    (outer : (store.recordPath network).place ∉ places) : store.HoldsFloatFree after network := by
  intro bytes fields file decoded
  rw [same.outside _ outer] at file
  exact floatFree bytes fields file decoded

theorem recordPlace_outside {name other : String} (plain : '/' ∉ name.toList)
    (plainOther : '/' ∉ other.toList) (different : name ≠ other) :
    (store.recordPath (.string name)).place ∉
      [(store.recordPath (.string other)).place, (store.temporaryPath (.string other)).place] := by
  have apart := store.recordPlace_ne_of_plain plain plainOther different
  simpa using apart

theorem recordPlace_ne_temporaryPlace_of_plain (store : ArtifactStore) {name other : String}
    (plain : '/' ∉ name.toList)
    (plainOther : '/' ∉ other.toList) :
    (store.recordPath (.string name)).place ≠ (store.temporaryPath (.string other)).place := by
  by_cases same : name = other
  · subst same
    exact store.recordPlace_ne_temporaryPlace (.string name)
  · exact (store.recordPlace_ne_of_plain plain plainOther same).2

variable {name other : String}

/-- A write of a storable record leaves every stored record without doubles. -/
theorem HoldsFloatFree.write (floatFree : store.HoldsFloatFree before (.string name))
    (plain : '/' ∉ name.toList) (plainOther : '/' ∉ other.toList) (storable : record.Storable) :
    store.HoldsFloatFree (finalState (store.write record (.string other) before))
      (.string name) := by
  cases writes : store.write record (.string other) before with
  | error fault after =>
      have outer := store.recordPlace_ne_temporaryPlace_of_plain plain plainOther
      exact (floatFree.grow (store.grows_made before)).apart (sameApart_of_write_error writes)
        (by simpa using outer)
  | ok _ after =>
      have written := written_of_write writes
      by_cases same : name = other
      · subst same
        intro bytes fields file decoded
        obtain ⟨text, encoded, content⟩ := written.content
        have holds := Json.ofBytes_write Json.spaced_indented storable.faithful encoded
        obtain rfl : (String.ofList text).toUTF8 = bytes := by
          simpa using (content_ok.mp content).2.symm.trans file
        obtain rfl : record.fields = fields := by
          simpa using holds.symm.trans decoded
        exact storable.floatFree
      · exact (floatFree.grow (store.grows_made before)).apart written.apart
          (recordPlace_outside plain plainOther same)

theorem Populated.write_other (populated : store.Populated before (.string name) field address)
    (plain : '/' ∉ name.toList) (plainOther : '/' ∉ other.toList) (different : name ≠ other)
    (record : NetworkRecord) :
    store.Populated (finalState (store.write record (.string other) before)) (.string name) field
      address := by
  obtain ⟨stored, reads, held⟩ := populated
  obtain ⟨bytes, content, decoded⟩ := content_of_read reads (NetworkRecord.fields_ne_nil held)
  refine ⟨⟨.string name, stored.fields⟩, read_ok.mpr (.inr ⟨bytes, _, ?_, decoded, rfl⟩), held⟩
  cases writes : store.write record (.string other) before with
  | error fault after =>
      exact content_of_write_error writes
        (store.recordPlace_ne_temporaryPlace_of_plain plain plainOther) content
  | ok _ after =>
      exact (written_of_write writes).content_other
        (recordPlace_outside plain plainOther different) content

/-- A write of the same record with a vacant field filled leaves a settled field as it
is. -/
theorem Settled.write {filled : String} {text : String}
    (settled : store.Settled before network field address)
    (reads : store.read before network = .ok record) (vacant : record.get? filled = none) :
    store.Settled (finalState (store.write (record.put filled (.string text)) network before))
      network field address := by
  obtain ⟨stored, readsStored, storable, held⟩ := settled
  obtain rfl := read_unique reads readsStored
  cases writes : store.write (record.put filled (.string text)) network before with
  | error fault after =>
      obtain ⟨bytes, content, decoded⟩ := content_of_read reads (NetworkRecord.fields_ne_nil held)
      have kept := content_of_write_error writes (store.recordPlace_ne_temporaryPlace network)
        content
      exact ⟨⟨network, record.fields⟩, read_ok.mpr (.inr ⟨bytes, _, kept, decoded, rfl⟩),
        ⟨storable.legible, storable.floatFree⟩, held⟩
  | ok _ after =>
      have storableNew := storable.put_string filled text
      have back := (written_of_write writes).read storableNew
      exact ⟨_, back, ⟨storableNew.legible, storableNew.floatFree⟩,
        NetworkRecord.get?_put_of_vacant vacant (.string text) held⟩

end ArtifactStore

end ContractRollout
