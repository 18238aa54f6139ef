import ContractRollout.Fault.Access
import ContractRollout.Json.Equality

/-!
# Event attributes

A transaction reports its effects in events, at its top and in its logs. An attribute
is looked for in the events of one type, in order, and blank values are passed over.
-/

namespace ContractRollout

namespace Json

/-- The events of a transaction: its own, then those of each log. -/
def events (transaction : Json) : Except Fault (List Json) := do
  let own ← transaction.fieldElements "events"
  let logs ← transaction.fieldElements "logs"
  let logged ← logs.mapM (·.fieldElements "events")
  return own ++ logged.flatten

/-- The value of the first attribute with a key and a truthy value. -/
def findAttribute (key : Json) : List Json → Except Fault (Option Json)
  | [] => return none
  | candidate :: rest => do
      let name ← candidate.field "key"
      if name.same key then
        let value ← candidate.field "value"
        if value.isTruthy then return some value
      findAttribute key rest

/-- The value of the first such attribute in events of a type. -/
def findInEvents (type key : Json) : List Json → Except Fault (Option Json)
  | [] => return none
  | event :: rest => do
      let found ← event.field "type"
      if found.same type then
        let attributes ← event.fieldElements "attributes"
        match ← findAttribute key attributes with
        | some value => return some value
        | none => findInEvents type key rest
      else findInEvents type key rest

/-- The value of the first attribute with a key in a transaction's events of a type. -/
def eventAttribute (transaction type key : Json) : Except Fault (Option Json) := do
  findInEvents type key (← transaction.events)

end Json

end ContractRollout
