import ContractRollout.Number.Basic

/-!
# Structured values

Configuration, records, init messages and the answers of the chain are values of
one type. An object is a list of members in the order of insertion; giving a key a
new value keeps its place. A value that cannot be written as text is `foreign` and
is known only by the name of its kind and by how it stands in a message.
-/

namespace ContractRollout

/-- A structured value. -/
inductive Json where
  | null
  | bool (value : Bool)
  | number (value : Number)
  | string (value : String)
  | array (items : List Json)
  | object (members : List (String × Json))
  | foreign (kind text : String)
  deriving Repr, Inhabited

namespace Json

def integer (value : Int) : Json := .number (.integer value)

/-- A value that counts as missing in a message: null or the empty text. -/
def isUnset : Json → Bool
  | null => true
  | string text => text.isEmpty
  | _ => false

/-- A value that counts as present in a condition: not null, false, zero or empty. -/
def isTruthy : Json → Bool
  | null => false
  | bool value => value
  | number value => !value.isZero
  | string text => !text.isEmpty
  | array items => !items.isEmpty
  | object members => !members.isEmpty
  | foreign .. => true

/-- The value if it is truthy, another one otherwise. -/
def orElse (value other : Json) : Json := if value.isTruthy then value else other

/-- The name of a value's kind in messages. -/
def kindName : Json → String
  | null => "NoneType"
  | bool _ => "bool"
  | number (.integer _) => "int"
  | number (.real _) => "float"
  | string _ => "str"
  | array _ => "list"
  | object _ => "dict"
  | foreign kind _ => kind

/-- The number that a value counts as; the truth values count as one and zero. -/
def numeric? : Json → Option Number
  | bool value => some (.integer (if value then 1 else 0))
  | number value => some value
  | _ => none

end Json

end ContractRollout
