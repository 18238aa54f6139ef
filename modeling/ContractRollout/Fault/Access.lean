import ContractRollout.Fault.Basic

/-!
# Access to the parts of a value

Answers of the chain are taken apart without knowing their shape. A field can only be
asked of an object; going through the items of a value works on an array, on the keys
of an object and on the characters of a text.
-/

namespace ContractRollout

namespace Json

def asMembers : Json → Except Fault Members
  | object members => .ok members
  | _ => .error .notAnObject

/-- The value of a field, null when the object has none. -/
def field (value : Json) (key : String) : Except Fault Json :=
  value.asMembers.map (·.value key)

/-- What going through a value yields. -/
def elements : Json → Except Fault (List Json)
  | array items => .ok items
  | object members => .ok ((Members.keys members).map string)
  | string text => .ok (text.toList.map fun character => string character.toString)
  | _ => .error .wrongKind

/-- What going through a field yields, nothing when the field is not truthy. -/
def fieldElements (value : Json) (key : String) : Except Fault (List Json) := do
  let held ← value.field key
  if held.isTruthy then held.elements else return []

end Json

end ContractRollout
