import ContractRollout.Chain.Client
import ContractRollout.Json.Equality

/-!
# Confirmation

A transaction that was sent is looked up until the chain knows it. Between two lookups
there is a pause, and no pause starts once the timeout is reached.
-/

namespace ContractRollout

/-- How long to wait for a transaction, in seconds. -/
structure Patience where
  timeout : Number := .integer 60
  interval : Number := .integer 2

namespace Patience

/-- More lookups than are ever made where pauses lead to the timeout; where they do
not, so many that waiting counts as endless. -/
def lookupLimit (patience : Patience) : Nat :=
  let needed :=
    match patience.timeout.extended, patience.interval.extended with
    | .exactly timeout, .exactly interval =>
        if 0 < interval then 2 * (timeout / interval).ceil.toNat + 2 else 0
    | _, _ => 0
  needed + 100000

end Patience

namespace Json

/-- Whether a transaction or its submission is accepted: it has no code or its code is zero. -/
def isAccepted (members : Members) : Bool := ((members.lookup "code").getD (integer 0)).isZero

end Json

namespace Connection

variable (connection : Connection)

/-- Look a transaction up until it is there. The time waited so far is a double. -/
def poll (patience : Patience) (hash : Json) : Nat → Binary64 → ChainAction Json
  | 0, _ => throw .unending
  | limit + 1, waited => do
      match ← connection.transaction hash with
      | .null =>
          if patience.timeout.atMost (.real waited) then
            throw (.deployment (.transactionUnconfirmed hash patience.timeout))
          pause patience.interval
          match patience.interval.toReal? with
          | none => throw .outOfRange
          | some interval => poll patience hash limit (waited.add interval)
      | found => return found

/-- Wait for a transaction to be included with code zero. The answer has the hash. -/
def confirm (patience : Patience) (hash : Json) : ChainAction Members := do
  let found ← connection.poll patience hash patience.lookupLimit (.zero false)
  let transaction ← orFault found.asMembers
  if Json.isAccepted transaction then return transaction.insertNew "txhash" hash
  else throw (.deployment (.transactionFailed hash (transaction.value "raw_log")))

end Connection

end ContractRollout
