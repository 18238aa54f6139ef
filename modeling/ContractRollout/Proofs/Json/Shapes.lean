import ContractRollout.Fault.Access
import ContractRollout.Json.Equality
import ContractRollout.Proofs.Outcomes

/-!
# Shapes of values

What the chain answers has a known shape: objects with fields that are null or of a shape
again. Shapes are built from a few checks, and taking a value of a shape apart works.
-/

namespace ContractRollout

namespace Json

/-- Null, or of a shape. A field that an object does not have counts as null. -/
def isOptional (shape : Json → Bool) : Json → Bool
  | null => true
  | value => shape value

/-- An object with members of a shape. -/
def isObjectWith (shape : Members → Bool) : Json → Bool
  | object members => shape members
  | _ => false

def isObject : Json → Bool := isObjectWith fun _ => true

/-- An array with items of a shape. -/
def isArrayOf (shape : Json → Bool) : Json → Bool
  | array items => items.all shape
  | _ => false

def isText : Json → Bool
  | string _ => true
  | _ => false

variable {value : Json} {key : String}

theorem isOptional_iff {shape : Json → Bool} :
    value.isOptional shape = true ↔ value = .null ∨ shape value = true := by
  cases value <;> simp [isOptional]

theorem isObjectWith_iff {shape : Members → Bool} :
    value.isObjectWith shape = true ↔ ∃ members, value = .object members ∧ shape members = true := by
  cases value <;> simp [isObjectWith]

theorem isObject_iff : value.isObject = true ↔ ∃ members, value = .object members := by
  cases value <;> simp [isObject, isObjectWith]

theorem isArrayOf_iff {shape : Json → Bool} :
    value.isArrayOf shape = true ↔
      ∃ items, value = .array items ∧ ∀ item ∈ items, shape item = true := by
  cases value <;> simp [isArrayOf]

theorem isText_iff : value.isText = true ↔ ∃ text, value = .string text := by
  cases value <;> simp [isText]

/-- What is the same as a text is this text. -/
theorem same_string {text : String} : value.same (.string text) = true ↔ value = .string text := by
  cases value <;> simp [same, numeric?]

/-! ### Taking values apart -/

theorem field_object (members : Members) (key : String) :
    (object members).field key = .ok (members.value key) :=
  rfl

/-- An object stands for itself where nothing would count as an empty one. -/
theorem orElse_object (members : Members) :
    (object members).orElse (.object []) = .object members := by
  cases members <;> rfl

/-- What is null or an object has members, null counting as empty. -/
theorem orElse_of_optional (optional : value.isOptional isObject = true) :
    ∃ members, value.orElse (.object []) = .object members := by
  rcases isOptional_iff.mp optional with rfl | objectLike
  · exact ⟨[], rfl⟩
  · obtain ⟨members, rfl⟩ := isObject_iff.mp objectLike
    exact ⟨members, orElse_object members⟩

end Json

namespace Members

/-! ### Fields that list objects -/

/-- A field that is an array of objects of a shape, or null. -/
def lists (members : Members) (key : String) (shape : Members → Bool) : Bool :=
  (members.value key).isOptional (Json.isArrayOf (Json.isObjectWith shape))

/-- The objects in the array of a field. What is no array lists none. -/
def listed (members : Members) (key : String) : List Members :=
  match members.value key with
  | .array items => items.filterMap (·.asMembers.toOption)
  | _ => []

/-- Let a field list some objects. -/
def relist (members : Members) (key : String) (parts : List Members) : Members :=
  members.insert key (.array (parts.map .object))

variable {members : Members} {key other : String} {shape : Members → Bool}

theorem filterMap_object (parts : List Members) :
    (parts.map Json.object).filterMap (·.asMembers.toOption) = parts := by
  rw [List.filterMap_map]
  exact List.filterMap_some

theorem listed_of_array {parts : List Members}
    (held : members.value key = .array (parts.map .object)) : members.listed key = parts := by
  rw [listed, held]
  exact filterMap_object parts

@[simp]
theorem listed_relist_self (members : Members) (key : String) (parts : List Members) :
    (members.relist key parts).listed key = parts :=
  listed_of_array (value_insert_self ..)

theorem value_relist_of_ne (different : other ≠ key) (parts : List Members) :
    (members.relist key parts).value other = members.value other :=
  value_insert_of_ne different ..

theorem listed_relist_of_ne (different : other ≠ key) (parts : List Members) :
    (members.relist key parts).listed other = members.listed other := by
  rw [listed, value_relist_of_ne different, listed]

/-- Items that are all objects are the objects among them. -/
theorem exists_parts {items : List Json}
    (each : ∀ item ∈ items, item.isObjectWith shape = true) :
    ∃ parts : List Members, items = parts.map .object ∧ ∀ part ∈ parts, shape part = true := by
  induction items with
  | nil => exact ⟨[], rfl, by simp⟩
  | cons item items ih =>
      obtain ⟨part, rfl, shaped⟩ := Json.isObjectWith_iff.mp (each item List.mem_cons_self)
      obtain ⟨parts, rfl, shapedLater⟩ := ih fun later member => each later (List.mem_cons_of_mem _ member)
      exact ⟨part :: parts, rfl, List.forall_mem_cons.mpr ⟨shaped, shapedLater⟩⟩

/-- A field that lists objects of a shape lists them all. -/
theorem shape_of_listed (lists : members.lists key shape = true) :
    ∀ part ∈ members.listed key, shape part = true := by
  rcases Json.isOptional_iff.mp lists with absent | present
  · simp [listed, absent]
  · obtain ⟨items, held, each⟩ := Json.isArrayOf_iff.mp present
    obtain ⟨parts, rfl, shaped⟩ := exists_parts each
    rwa [listed_of_array held]

/-- Going through a field that lists objects yields these objects. -/
theorem fieldElements_of_lists (lists : members.lists key shape = true) :
    (Json.object members).fieldElements key = .ok ((members.listed key).map .object) := by
  unfold Json.fieldElements
  rw [Json.field_object, ok_bind]
  rcases Json.isOptional_iff.mp lists with absent | present
  · rw [listed, absent]
    rfl
  · obtain ⟨items, held, each⟩ := Json.isArrayOf_iff.mp present
    obtain ⟨parts, rfl, -⟩ := exists_parts each
    rw [listed_of_array held, held]
    cases parts <;> rfl

end Members

end ContractRollout
