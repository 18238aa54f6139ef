import ContractRollout.FileTree.Path
import ContractRollout.Json.Display
import ContractRollout.Json.Writer

/-!
# Deployment faults

What can go wrong between the deployer and the chain. Transaction hashes, code ids
and logs are shown as the chain gave them.
-/

namespace ContractRollout

/-- A cause for giving up a deployment. -/
inductive DeploymentCause where
  | requestFailed (url reason : String)
  | requestRefused (status : Int) (url : String)
  | answerUnreadable (url : String)
  | chainIdUnknown (endpoint : String)
  | labelMissing
  | wasmMissing (path : Path)
  | codeIdMissing (hash : Json)
  | codeIdInvalid (codeId hash : Json)
  | initMessageUnwritable (label : Json) (error : Json.WriteError)
  | addressMissing (hash : Json)
  | binaryMissing (binary : String)
  | commandFailed (command output : String)
  | outputUnreadable (output : String)
  | transactionRejected (log : Json)
  | hashMissing
  | transactionUnconfirmed (hash : Json) (timeout : Number)
  | transactionFailed (hash log : Json)
  /-- A failure that a deployer reports in its own words. -/
  | reported (message : String)

def DeploymentCause.message : DeploymentCause → String
  | requestFailed url reason => "LCD request failed: " ++ url ++ ": " ++ reason
  | requestRefused status url =>
      "LCD returned " ++ String.ofList (integerText status) ++ " for " ++ url
  | answerUnreadable url => "LCD returned invalid JSON for " ++ url
  | chainIdUnknown endpoint => "Could not determine chain id from " ++ endpoint
  | labelMissing => "Contract label is required for instantiation"
  | wasmMissing path => "Wasm file not found: " ++ path.toString
  | codeIdMissing hash => "No code_id in store tx " ++ hash.text
  | codeIdInvalid codeId hash =>
      "Invalid code_id " ++ codeId.quotedText ++ " in store tx " ++ hash.text
  | initMessageUnwritable label error =>
      "Init message for " ++ label.quotedText ++ " is not valid JSON: " ++ error.message
  | addressMissing hash => "No contract address in instantiate tx " ++ hash.text
  | binaryMissing binary => "Chain binary not found: " ++ binary
  | commandFailed command output => command ++ " failed: " ++ output
  | outputUnreadable output => "Unexpected CLI output: " ++ output
  | transactionRejected log => "Transaction rejected: " ++ log.text
  | hashMissing => "CLI output carries no txhash"
  | transactionUnconfirmed hash timeout =>
      "Transaction " ++ hash.text ++ " not confirmed after " ++ String.ofList timeout.text ++ "s"
  | transactionFailed hash log => "Transaction " ++ hash.text ++ " failed: " ++ log.text
  | reported message => message

end ContractRollout
