import ContractRollout.Proofs.Json.Legible
import ContractRollout.Record.Network

/-!
# Fields of records

Setting a field that is not populated always works. It changes no other field, adds the
field at the end if it is new, and keeps the record such that it can be stored.
-/

namespace ContractRollout

namespace NetworkRecord

/-- A record that a write can put into a file and a read can give back. -/
structure Storable (record : NetworkRecord) : Prop where
  legible : Json.Legible (.object record.fields)
  floatFree : Json.FloatFree (.object record.fields)

def put (record : NetworkRecord) (field : String) (address : Json) : NetworkRecord :=
  ⟨record.network, record.fields.insert field address⟩

variable {record : NetworkRecord} {field other : String} {address held : Json}

@[simp]
theorem network_put (record : NetworkRecord) (field : String) (address : Json) :
    (record.put field address).network = record.network :=
  rfl

theorem get?_eq_some :
    record.get? field = some address ↔
      record.fields.value field = address ∧ address.isTruthy = true := by
  unfold get?
  dsimp only
  split
  · rename_i truthy
    constructor
    · intro held
      obtain rfl := Option.some.inj held
      exact ⟨rfl, truthy⟩
    · rintro ⟨rfl, -⟩
      rfl
  · rename_i blank
    constructor
    · simp
    · rintro ⟨rfl, truthy⟩
      exact absurd truthy blank

theorem set_of_vacant (vacant : record.get? field = none) (address : Json) :
    set field address record = .ok () (record.put field address) := by
  simp [set, vacant, put, bind, EStateM.bind, get, getThe, MonadStateOf.get, EStateM.get, modify,
    modifyGet, MonadStateOf.modifyGet, EStateM.modifyGet]

/-- A populated field is written only if the address is the one that it has. -/
theorem set_of_populated (populated : record.get? field = some held) (address : Json) :
    set field address record =
      if held.same address then .ok () (record.put field address)
      else .error (.overwrite field held record.network) record := by
  cases same : held.same address <;>
    simp [set, populated, same, put, bind, EStateM.bind, get, getThe, MonadStateOf.get, EStateM.get,
      throw, throwThe, MonadExceptOf.throw, EStateM.throw, modify, modifyGet,
      MonadStateOf.modifyGet, EStateM.modifyGet]

theorem get?_put_self (truthy : address.isTruthy) :
    (record.put field address).get? field = some address := by
  simp [get?, put, truthy]

theorem get?_put_of_ne (different : other ≠ field) (address : Json) :
    (record.put field address).get? other = record.get? other := by
  simp [get?, put, Members.value_insert_of_ne different]

theorem get?_put_of_vacant (vacant : record.get? field = none) (address : Json)
    (populated : record.get? other = some held) :
    (record.put field address).get? other = some held := by
  have different : other ≠ field := by
    rintro rfl
    simp [vacant] at populated
  rw [get?_put_of_ne different, populated]

theorem has_eq_false : record.has field = false ↔ record.get? field = none := by
  simp [has]

theorem has_eq_true : record.has field = true ↔ ∃ address, record.get? field = some address := by
  simp [has, Option.isSome_iff_exists]

/-- A record has what it had before and the new address. -/
theorem has_put (truthy : address.isTruthy = true) :
    (record.put field address).has other = true ↔ record.has other = true ∨ other = field := by
  by_cases same : other = field
  · subst same
    simp [has, get?_put_self truthy]
  · simp [has, get?_put_of_ne same, same]

theorem fields_ne_nil (populated : record.get? field = some held) : record.fields ≠ [] := by
  intro unfilled
  simp [get?, unfilled, Members.value, Json.isTruthy] at populated

theorem isTruthy_string {text : String} (nonempty : text ≠ "") :
    (Json.string text).isTruthy = true := by
  simp [Json.isTruthy, nonempty]

theorem Storable.faithful (storable : record.Storable) : Json.Faithful (.object record.fields) :=
  storable.legible.faithful storable.floatFree

theorem Storable.put_string (storable : record.Storable) (field text : String) :
    (record.put field (.string text)).Storable where
  legible := storable.legible.insert field (.string text)
  floatFree := storable.floatFree.insert field (.string text)

theorem storable_empty (network : Json) : (empty network).Storable where
  legible := .object List.nodup_nil (by simp [empty])
  floatFree := .object (by simp [empty])

end NetworkRecord

end ContractRollout
