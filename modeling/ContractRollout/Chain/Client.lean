import ContractRollout.Chain.Session
import ContractRollout.Fault.Access

/-!
# The LCD client

The client asks the LCD endpoint for the identity of the chain, for transactions and
for contracts. Whatever is not found is null.
-/

namespace ContractRollout

/-- How a chain is reached. -/
structure Connection where
  settings : Settings
  surroundings : Surroundings

/-- Seconds after which a request is given up. -/
def requestTimeout : Nat := 10

namespace Connection

variable (connection : Connection)

/-- The value at an LCD path, null when there is none. -/
def fetch (path : String) : ChainAction Json := do
  let url := connection.settings.lcdUrl ++ path
  match ← sendRequest connection.surroundings url with
  | .failed reason => throw (.deployment (.requestFailed url reason))
  | .answered status body =>
      if status = 404 then return .null
      else if 400 ≤ status ∧ status < 600 then
        throw (.deployment (.requestRefused status url))
      else
        match Json.read body.toList with
        | .ok value => return value
        | .error _ => throw (.deployment (.answerUnreadable url))

/-- The chain id in a description of a node. -/
def networkOf (info : Json) : Except Fault Json := do
  let node ← (info.orElse (.object [])).field "default_node_info"
  (node.orElse (.object [])).field "network"

def chainId : ChainAction Json := do
  match (← get).chainId with
  | some network => return network
  | none =>
      let info ← connection.fetch "/cosmos/base/tendermint/v1beta1/node_info"
      let network ← orFault (networkOf info)
      if network.isTruthy then
        modify fun session => { session with chainId := some network }
        return network
      else throw (.deployment (.chainIdUnknown connection.settings.lcdUrl))

/-- A field of the value at an LCD path, null when there is no value. -/
def fetchField (path key : String) : ChainAction Json := do
  let value ← connection.fetch path
  if value.isTruthy then orFault (value.field key) else return .null

/-- The transaction of a hash, null while it is not known. -/
def transaction (hash : Json) : ChainAction Json :=
  connection.fetchField ("/cosmos/tx/v1beta1/txs/" ++ hash.text) "tx_response"

/-- What the chain knows of a contract, null when there is none at the address. -/
def contractInfo (address : Json) : ChainAction Json :=
  connection.fetchField ("/cosmwasm/wasm/v1/contract/" ++ address.text) "contract_info"

end Connection

end ContractRollout
