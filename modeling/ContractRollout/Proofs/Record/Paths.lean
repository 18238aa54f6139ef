import ContractRollout.Proofs.FileTree.Places
import ContractRollout.Record.Store

/-!
# Paths of records

Whatever its network is called, a record and its temporary file are in one directory
under different names. Networks without slashes in their names have different records
in the directory of the store, and none of them is the temporary file of another.
-/

namespace ContractRollout

/-! ### Cutting before a last piece -/

theorem cutAt_of_not_mem {separator : Char} {text : List Char} (absent : separator ∉ text) :
    cutAt separator text = [text] := by
  induction text with
  | nil => rfl
  | cons character rest ih =>
      have apart : character ≠ separator ∧ separator ∉ rest := by
        simpa [eq_comm] using absent
      simp [cutAt, apart.1, ih apart.2]

/-- A text without separators goes to the end of the last piece. -/
theorem cutAt_append {separator : Char} (text : List Char) {ending : List Char}
    (absent : separator ∉ ending) :
    ∃ pieces last, cutAt separator (text ++ ending) = pieces ++ [last ++ ending] := by
  induction text with
  | nil => exact ⟨[], [], by simp [cutAt_of_not_mem absent]⟩
  | cons character rest ih =>
      obtain ⟨pieces, last, cut⟩ := ih
      by_cases same : character = separator
      · exact ⟨[] :: pieces, last, by simp [cutAt, same, cut]⟩
      · cases pieces with
        | nil => exact ⟨[], character :: last, by simp [cutAt, same, cut]⟩
        | cons piece pieces =>
            exact ⟨(character :: piece) :: pieces, last, by simp [cutAt, same, cut]⟩

theorem Path.parts_ofString_json (text : String) :
    ∃ name outer, (Path.ofString (text ++ ".json")).parts = (name ++ ".json") :: outer := by
  have absent : '/' ∉ ".json".toList := by decide
  obtain ⟨pieces, last, cut⟩ := cutAt_append text.toList absent
  have kept : (!(last ++ ".json".toList).isEmpty && (last ++ ".json".toList) != ['.']) = true := by
    cases last <;> simp
  simp only [Path.ofString, String.toList_append, cut, List.filter_append, List.filter_cons, kept,
    List.filter_nil, if_true, List.map_append, List.map_cons, List.map_nil, List.reverse_append,
    List.reverse_singleton, List.singleton_append, String.ofList_append, String.ofList_toList]
  exact ⟨_, _, rfl⟩

theorem Path.ofString_json {text : String} (plain : '/' ∉ text.toList) :
    Path.ofString (text ++ ".json") = ⟨.relative, [text ++ ".json"]⟩ := by
  have absent : '/' ∉ (text ++ ".json").toList := by
    simpa using plain
  have kept : (!(text ++ ".json").toList.isEmpty && (text ++ ".json").toList != ['.']) = true := by
    cases characters : text.toList <;> simp [characters]
  have unrooted : ((text ++ ".json").toList.takeWhile (· == '/')).length = 0 := by
    cases characters : (text ++ ".json").toList with
    | nil => rfl
    | cons first rest =>
        rw [characters] at absent
        have apart : first ≠ '/' := by
          rintro rfl
          simp at absent
        simp [apart]
  simp only [Path.ofString, cutAt_of_not_mem absent, List.filter_cons, kept, List.filter_nil,
    if_true, unrooted, List.map_cons, List.map_nil, List.reverse_singleton, String.ofList_toList]

namespace ArtifactStore

variable (store : ArtifactStore) (network : Json)

/-- A record and its temporary file are in one directory, and their names have different
endings. -/
theorem paths_eq :
    ∃ rooting name other outer,
      store.recordPath network = ⟨rooting, (name ++ ".json") :: outer⟩ ∧
        store.temporaryPath network = ⟨rooting, (other ++ ".json.tmp") :: outer⟩ := by
  obtain ⟨name, outer, parts⟩ := Path.parts_ofString_json network.text
  have record : ∃ rooting outer, store.recordPath network = ⟨rooting, (name ++ ".json") :: outer⟩ := by
    unfold recordPath Path.join
    split
    · exact ⟨_, outer ++ store.path.parts, by rw [parts, List.cons_append]⟩
    · exact ⟨_, outer, by rw [← parts]⟩
  obtain ⟨rooting, outer, record⟩ := record
  exact ⟨rooting, name, Path.stem (name ++ ".json"), outer, record, by
    rw [temporaryPath, record, Path.withSuffix]⟩

/-- The record of a network without slashes in its name is directly in the store. -/
theorem recordPath_of_plain {name : String} (plain : '/' ∉ name.toList) :
    store.recordPath (.string name) =
      ⟨store.path.rooting, (name ++ ".json") :: store.path.parts⟩ := by
  simp [recordPath, Json.text, Path.ofString_json plain, Path.join]

end ArtifactStore

theorem Path.place_cons {rooting : Rooting} {name : String} (outer : List String)
    (plain : name ≠ "..") :
    (Path.mk rooting (name :: outer)).place = (Path.mk rooting outer).place.child name :=
  Place.enter_of_ne plain _

/-! ### Names and their endings -/

theorem ne_of_last {first second : String}
    (apart : first.toList.getLast? ≠ second.toList.getLast?) : first ≠ second :=
  fun same => apart (congrArg (fun text => text.toList.getLast?) same)

theorem endings_ne (name other : String) : name ++ ".json" ≠ other ++ ".json.tmp" :=
  ne_of_last (by simp [List.getLast?_append])

theorem json_ne_parent (name : String) : name ++ ".json" ≠ ".." :=
  ne_of_last (by simp [List.getLast?_append])

theorem temporary_ne_parent (name : String) : name ++ ".json.tmp" ≠ ".." :=
  ne_of_last (by simp [List.getLast?_append])

namespace ArtifactStore

variable (store : ArtifactStore)

theorem recordPlace_ne_temporaryPlace (network : Json) :
    (store.recordPath network).place ≠ (store.temporaryPath network).place := by
  obtain ⟨rooting, name, other, outer, record, temporary⟩ := store.paths_eq network
  rw [record, temporary, Path.place_cons outer (json_ne_parent name),
    Path.place_cons outer (temporary_ne_parent other)]
  exact fun same => endings_ne name other (Place.child_injective same)

/-- Two networks without slashes in their names have their records at different places,
and the one never has its record where the other has its temporary file. -/
theorem recordPlace_ne_of_plain {name other : String} (plain : '/' ∉ name.toList)
    (plainOther : '/' ∉ other.toList) (different : name ≠ other) :
    (store.recordPath (.string name)).place ≠ (store.recordPath (.string other)).place ∧
      (store.recordPath (.string name)).place ≠ (store.temporaryPath (.string other)).place := by
  rw [temporaryPath, store.recordPath_of_plain plain, store.recordPath_of_plain plainOther,
    Path.withSuffix, Path.place_cons _ (json_ne_parent name),
    Path.place_cons _ (json_ne_parent other), Path.place_cons _ (temporary_ne_parent _)]
  constructor
  · intro same
    have names := congrArg String.toList (Place.child_injective same)
    rw [String.toList_append, String.toList_append] at names
    exact different (String.toList_inj.mp (List.append_cancel_right names))
  · exact fun same => endings_ne name _ (Place.child_injective same)

end ArtifactStore

end ContractRollout
