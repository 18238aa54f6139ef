import ContractRollout.Fault.Basic
import ContractRollout.Json.Equality

/-!
# Network records

The record of a network holds the address of every contract deployed there. A field
goes from empty to populated once and then keeps its address; blank values count as
empty but have a place in the order.
-/

namespace ContractRollout

/-- The contract addresses known for one network. -/
structure NetworkRecord where
  network : Json
  fields : Members

namespace NetworkRecord

/-- The record of a network without any fields. -/
def empty (network : Json) : NetworkRecord := ⟨network, []⟩

/-- The value of a populated field. -/
def get? (record : NetworkRecord) (field : String) : Option Json :=
  let value := record.fields.value field
  if value.isTruthy then some value else none

def has (record : NetworkRecord) (field : String) : Bool := (record.get? field).isSome

/-- Give a field an address, in place. A populated field only takes the address that it has;
any other one is refused before anything is written. -/
def set (field : String) (address : Json) : EStateM Fault NetworkRecord Unit := do
  let record ← get
  if let some held := record.get? field then
    if !held.same address then throw (.overwrite field held record.network)
  modify fun record => { record with fields := record.fields.insert field address }

/-- Records are the same when their networks and their fields are, in any order. -/
def same (first second : NetworkRecord) : Bool :=
  first.network.same second.network
    && (Json.object first.fields).same (Json.object second.fields)

/-- A record is not the same as any bare value, whatever its fields. -/
def sameAsValue (_record : NetworkRecord) (_value : Json) : Bool := false

def text (record : NetworkRecord) : String :=
  "NetworkRecord(" ++ record.network.quotedText ++ ", "
    ++ (Json.object record.fields).quotedText ++ ")"

end NetworkRecord

end ContractRollout
