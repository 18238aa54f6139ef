import ContractRollout.Json.Basic

/-!
# Sameness of values

Two values are the same when they stand for the same data: numbers by value,
whatever their kind, arrays item by item, and objects key by key in any order.
-/

namespace ContractRollout

namespace Json

mutual

/-- Whether two values stand for the same data. -/
def same : Json → Json → Bool
  | null, null => true
  | string first, string second => first = second
  | array firsts, array seconds => sameItems firsts seconds
  | object firsts, object seconds =>
      firsts.length = seconds.length && sameMembers firsts seconds
  | foreign kind text, foreign otherKind otherText => kind = otherKind && text = otherText
  | first, second =>
      match first.numeric?, second.numeric? with
      | some left, some right => left.same right
      | _, _ => false

def sameItems : List Json → List Json → Bool
  | [], [] => true
  | first :: firsts, second :: seconds => same first second && sameItems firsts seconds
  | _, _ => false

/-- Whether every member of the first list is found in the second. -/
def sameMembers : List (String × Json) → List (String × Json) → Bool
  | [], _ => true
  | (key, value) :: rest, members =>
      (match members.lookup key with
        | some other => same value other
        | none => false) && sameMembers rest members

end

/-- Whether a value is the number zero, as an integer, a double or a truth value. -/
def isZero (value : Json) : Bool := value.same (.integer 0)

end Json

end ContractRollout
