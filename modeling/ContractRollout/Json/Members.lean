import ContractRollout.Bindings
import ContractRollout.Json.Basic

/-!
# Members of objects

The members of an object are bindings of texts to values. A key without a value has
the value null.
-/

namespace ContractRollout

/-- The members of an object in order. -/
abbrev Members := List (String × Json)

namespace Members

def value (members : Members) (key : String) : Json := (members.lookup key).getD .null

/-- Give a key a value, in its place if it has one. -/
def insert (key : String) (value : Json) (members : Members) : Members :=
  Bindings.insert key value members

/-- Give a key a value unless it has one already. -/
def insertNew (key : String) (value : Json) (members : Members) : Members :=
  if (members.lookup key).isSome then members else members.insert key value

/-- Members taken one after the other, the last value of a key counting. -/
def collect (members : Members) : Members :=
  members.foldl (fun collected member => collected.insert member.1 member.2) []

def keys (members : Members) : List String := members.map Prod.fst

@[simp]
theorem value_insert_self (key : String) (value : Json) (members : Members) :
    (members.insert key value).value key = value := by
  simp [Members.value, insert]

theorem value_insert_of_ne {key other : String} (different : other ≠ key) (value : Json)
    (members : Members) :
    (members.insert key value).value other = members.value other := by
  simp [Members.value, insert, Bindings.lookup_insert_of_ne different]

end Members

end ContractRollout
