import ContractRollout.FileTree.Document

/-!
# Configuration faults

What can be wrong with the static configuration, the environment, a stored record or
the wallet before anything is sent to the chain.
-/

namespace ContractRollout

/-- A cause for refusing a configuration. -/
inductive ConfigurationCause where
  /-- A part of the chain configs is neither blank nor an object. -/
  | partShape (name kind : String)
  | multisigMissing
  | configsMissing (path : Path)
  | configsUnreadable (path : Path) (error : DocumentError)
  | configsShape (path : Path)
  | settingMissing (name : String)
  | recordUnreadable (path : Path) (error : DocumentError)
  | recordShape (path : Path)
  | binaryMissing (binary : String)
  | keyRefused (key reason : String)
  | keyWithoutAddress (key : String)

def ConfigurationCause.message : ConfigurationCause → String
  | partShape name kind => "Chain configs: " ++ name ++ " must be an object, got " ++ kind
  | multisigMissing =>
      "Missing multisig: set generalInfo.multisig, the owner of the contracts"
  | configsMissing path => "Chain configs not found: " ++ path.toString
  | configsUnreadable path error =>
      "Cannot read chain configs " ++ path.toString ++ ": " ++ error.message
  | configsShape path => "Chain configs " ++ path.toString ++ " must be a JSON object"
  | settingMissing name => name ++ " not set"
  | recordUnreadable path error =>
      "Cannot read network record " ++ path.toString ++ ": " ++ error.message
  | recordShape path => "Network record " ++ path.toString ++ " must be a JSON object"
  | binaryMissing binary => "Chain binary not found: " ++ binary
  | keyRefused key reason =>
      "Cannot load key " ++ String.ofList (quoted key) ++ ": " ++ reason
  | keyWithoutAddress key => "Key " ++ String.ofList (quoted key) ++ " has no address"

end ContractRollout
