import ContractRollout.Proofs.Config.Defaults
import ContractRollout.Proofs.Json.Shapes
import ContractRollout.Proofs.Record.Network

/-!
# The first address stays

Addresses are given to the fields of a record one call after the other. A call on a vacant
field puts its address there, and a call on a populated field changes nothing: it is refused,
unless it brings the address that is there already. So of the addresses that a vacant field is
given the first that is not blank stays, whatever the other calls are.
-/

namespace ContractRollout

theorem Bindings.insert_of_lookup {α β : Type} [DecidableEq α] {key : α} {value : β}
    {bindings : List (α × β)} (held : bindings.lookup key = some value) :
    insert key value bindings = bindings := by
  induction bindings with
  | nil => simp at held
  | cons binding rest ih =>
      obtain ⟨name, other⟩ := binding
      by_cases same : name = key
      · subst same
        obtain rfl : other = value := by simpa using held
        simp [insert]
      · have passed : (key == name) = false := by simpa using Ne.symm same
        rw [List.lookup_cons, passed] at held
        simp [insert, same, ih held]

/-- A call that gives a field an address. -/
structure Assignment where
  field : String
  address : String

namespace Assignment

/-- Make a call on a record. -/
def run (call : Assignment) : EStateM Fault NetworkRecord Unit :=
  NetworkRecord.set call.field (.string call.address)

/-- The first address for a field that is not blank. -/
def firstAddress (field : String) (calls : List Assignment) : Option String :=
  ((calls.filter (·.field = field)).map (·.address)).find? (· ≠ "")

theorem firstAddress_cons (field : String) (call : Assignment) (calls : List Assignment) :
    firstAddress field (call :: calls) =
      if call.field = field ∧ call.address ≠ "" then some call.address
      else firstAddress field calls := by
  by_cases same : call.field = field
  · by_cases blank : call.address = "" <;> simp [firstAddress, same, blank]
  · simp [firstAddress, same]

end Assignment

namespace NetworkRecord

/-- The record after calls were made on it, the refused ones included. -/
def after (record : NetworkRecord) (calls : List Assignment) : NetworkRecord :=
  calls.foldl (fun record call => finalState (call.run record)) record

variable {record : NetworkRecord} {call : Assignment} {calls : List Assignment} {field : String}
  {held : Json}

theorem after_cons (record : NetworkRecord) (call : Assignment) (calls : List Assignment) :
    record.after (call :: calls) = (finalState (call.run record)).after calls :=
  rfl

theorem after_append (record : NetworkRecord) (earlier later : List Assignment) :
    record.after (earlier ++ later) = (record.after earlier).after later :=
  List.foldl_append

/-! ### One call -/

theorem lookup_of_populated (populated : record.get? field = some held) :
    record.fields.lookup field = some held := by
  obtain ⟨value, truthy⟩ := get?_eq_some.mp populated
  rw [Members.value] at value
  cases found : record.fields.lookup field with
  | some other =>
      rw [found] at value
      exact congrArg some value
  | none =>
      rw [found] at value
      obtain rfl : Json.null = held := value
      simp [Json.isTruthy] at truthy

theorem mem_keys_of_populated (populated : record.get? field = some held) :
    field ∈ record.fields.keys := by
  by_contra unbound
  obtain ⟨value, truthy⟩ := get?_eq_some.mp populated
  rw [Members.value_of_not_mem unbound] at value
  simp [← value, Json.isTruthy] at truthy

theorem run_of_vacant (vacant : record.get? call.field = none) :
    call.run record = .ok () (record.put call.field (.string call.address)) :=
  set_of_vacant vacant _

/-- The address that a field has already may be given again. -/
theorem run_of_same (populated : record.get? call.field = some (.string call.address)) :
    call.run record = .ok () record := by
  have unchanged : record.fields.insert call.field (.string call.address) = record.fields :=
    Bindings.insert_of_lookup (lookup_of_populated populated)
  rw [Assignment.run, set_of_populated populated, if_pos (Json.same_string.mpr rfl), put, unchanged]

theorem run_of_other (populated : record.get? call.field = some held)
    (different : held ≠ .string call.address) :
    call.run record = .error (.overwrite call.field held record.network) record := by
  rw [Assignment.run, set_of_populated populated,
    if_neg (by simpa [Json.same_string] using different)]

/-- A call on a populated field changes nothing, whether it is refused or not. -/
theorem finalState_run_of_populated (populated : record.get? call.field = some held) :
    finalState (call.run record) = record := by
  by_cases same : held = .string call.address
  · rw [run_of_same (populated.trans (congrArg some same)), finalState_ok]
  · rw [run_of_other populated same, finalState_error]

theorem finalState_run_of_vacant (vacant : record.get? call.field = none) :
    finalState (call.run record) = record.put call.field (.string call.address) := by
  rw [run_of_vacant vacant, finalState_ok]

/-- A call is refused exactly if its field has another value, and it leaves the record then. -/
theorem run_eq_error {fault : Fault} {left : NetworkRecord} :
    call.run record = .error fault left ↔
      left = record ∧ ∃ held, record.get? call.field = some held ∧ held ≠ .string call.address ∧
        fault = .overwrite call.field held record.network := by
  cases state : record.get? call.field with
  | none => simp [run_of_vacant state]
  | some held =>
      by_cases same : held = .string call.address
      · subst same
        simp [run_of_same state]
      · rw [run_of_other state same]
        simp [same, eq_comm, and_comm]

theorem network_run (record : NetworkRecord) (call : Assignment) :
    (finalState (call.run record)).network = record.network := by
  cases state : record.get? call.field with
  | none => rw [finalState_run_of_vacant state, network_put]
  | some held => rw [finalState_run_of_populated state]

theorem get?_run_of_populated (populated : record.get? field = some held) :
    (finalState (call.run record)).get? field = some held := by
  cases state : record.get? call.field with
  | none =>
      rw [finalState_run_of_vacant state]
      exact get?_put_of_vacant state _ populated
  | some other => rwa [finalState_run_of_populated state]

theorem get?_run_of_vacant (call : Assignment) (vacant : record.get? field = none) :
    (finalState (call.run record)).get? field =
      if call.field = field ∧ call.address ≠ "" then some (.string call.address) else none := by
  cases state : record.get? call.field with
  | some held =>
      have different : call.field ≠ field := by
        rintro rfl
        simp [vacant] at state
      rw [finalState_run_of_populated state, vacant, if_neg (by simp [different])]
  | none =>
      rw [finalState_run_of_vacant state]
      by_cases same : call.field = field
      · subst same
        by_cases blank : call.address = "" <;> simp [get?, put, blank, Json.isTruthy]
      · rw [get?_put_of_ne (Ne.symm same), vacant, if_neg (by simp [same])]

theorem lookup_run_of_ne (different : call.field ≠ field) :
    (finalState (call.run record)).fields.lookup field = record.fields.lookup field := by
  cases state : record.get? call.field with
  | none =>
      rw [finalState_run_of_vacant state]
      exact Bindings.lookup_insert_of_ne (Ne.symm different) _ _
  | some held => rw [finalState_run_of_populated state]

/-- The fields after a call are those of the record with the field of the call put in. -/
theorem keys_run (record : NetworkRecord) (call : Assignment) :
    (finalState (call.run record)).fields.keys =
      (record.fields.insert call.field (.string call.address)).keys := by
  cases state : record.get? call.field with
  | none => rw [finalState_run_of_vacant state, put]
  | some held =>
      rw [finalState_run_of_populated state,
        Members.keys_insert_of_mem _ (mem_keys_of_populated state)]

/-! ### All calls -/

theorem network_after (record : NetworkRecord) (calls : List Assignment) :
    (record.after calls).network = record.network := by
  induction calls generalizing record with
  | nil => rfl
  | cons call calls ih => rw [after_cons, ih, network_run]

theorem get?_after_of_populated (populated : record.get? field = some held) :
    (record.after calls).get? field = some held := by
  induction calls generalizing record with
  | nil => exact populated
  | cons call calls ih => exact ih (get?_run_of_populated populated)

theorem get?_after_of_vacant (vacant : record.get? field = none) :
    (record.after calls).get? field =
      (Assignment.firstAddress field calls).map .string := by
  induction calls generalizing record with
  | nil => exact vacant
  | cons call calls ih =>
      have here := get?_run_of_vacant call vacant
      rw [after_cons, Assignment.firstAddress_cons]
      split at here
      · rename_i written
        rw [get?_after_of_populated here, if_pos written]
        rfl
      · rename_i unwritten
        rw [ih here, if_neg unwritten]

theorem lookup_after_of_unnamed (unnamed : ∀ call ∈ calls, call.field ≠ field) :
    (record.after calls).fields.lookup field = record.fields.lookup field := by
  induction calls generalizing record with
  | nil => rfl
  | cons call calls ih =>
      obtain ⟨different, others⟩ := List.forall_mem_cons.mp unnamed
      rw [after_cons, ih others, lookup_run_of_ne different]

theorem keys_after (record : NetworkRecord) (calls : List Assignment) :
    (record.after calls).fields.keys =
      record.fields.keys ++ ((calls.map (·.field)).filter (· ∉ record.fields.keys)).eraseDups := by
  let entry (call : Assignment) : String × Json := (call.field, .string call.address)
  have inserted : (record.after calls).fields.keys =
      (Members.insertAll record.fields (calls.map entry)).keys := by
    induction calls generalizing record with
    | nil => rfl
    | cons call calls ih =>
        rw [after_cons, ih, Members.keys_insertAll, keys_run, ← Members.keys_insertAll,
          List.map_cons, Members.insertAll_cons]
  have fields : Members.keys (calls.map entry) = calls.map (·.field) := by
    rw [Members.keys, List.map_map]
    rfl
  rw [inserted, Members.keys_insertAll, fields]

/-- The first address stays, whatever calls are made. A call is refused exactly if its field has
another value by then, and a refused call leaves the record as it is. A populated field keeps its
value from then on. A field that was vacant at the start ends with the first address for it that is
not blank, and vacant if there is none. Fields that no call names are left alone. The fields of the
start keep their places, and the others follow in the order of their first calls. -/
theorem first_write_wins (record : NetworkRecord) (calls : List Assignment) :
    (∀ earlier call, earlier ++ [call] <+: calls →
      ((∃ fault left, call.run (record.after earlier) = .error fault left) ↔
        ∃ held, (record.after earlier).get? call.field = some held ∧
          held ≠ .string call.address) ∧
      ∀ fault left, call.run (record.after earlier) = .error fault left →
        left = record.after earlier ∧
        ∃ held, (record.after earlier).get? call.field = some held ∧
          fault = .overwrite call.field held record.network) ∧
    (∀ earlier longer, earlier <+: longer → longer <+: calls → ∀ field held,
      (record.after earlier).get? field = some held →
      (record.after longer).get? field = some held) ∧
    (∀ field, record.get? field = none →
      (record.after calls).get? field = (Assignment.firstAddress field calls).map .string) ∧
    (∀ field, (∀ call ∈ calls, call.field ≠ field) →
      (record.after calls).fields.lookup field = record.fields.lookup field) ∧
    (record.after calls).fields.keys = record.fields.keys ++
      ((calls.map (·.field)).filter (· ∉ record.fields.keys)).eraseDups := by
  refine ⟨?calls, ?kept, ?vacant, ?unnamed, keys_after record calls⟩
  case calls =>
    intro earlier call _
    refine ⟨?_, ?_⟩
    · simp [run_eq_error]
    · intro fault left refused
      obtain ⟨same, held, populated, -, fault⟩ := run_eq_error.mp refused
      exact ⟨same, held, populated, by rw [fault, network_after]⟩
  case kept =>
    rintro earlier _ ⟨between, rfl⟩ _ field held populated
    rw [after_append]
    exact get?_after_of_populated populated
  case vacant =>
    intro field vacant
    exact get?_after_of_vacant vacant
  case unnamed =>
    intro field unnamed
    exact lookup_after_of_unnamed unnamed

/-- A blank address gives a new field its place, and the first one that is not blank stays there. -/
example :
    (NetworkRecord.after ⟨.string "pisco-1", [("owner", .null), ("height", .integer 7)]⟩
      [⟨"bridge", ""⟩, ⟨"owner", "terra1a"⟩, ⟨"height", "terra1b"⟩, ⟨"bridge", "terra1c"⟩,
        ⟨"owner", ""⟩]).fields =
      [("owner", .string "terra1a"), ("height", .integer 7), ("bridge", .string "terra1c")] :=
  rfl

end NetworkRecord

end ContractRollout
