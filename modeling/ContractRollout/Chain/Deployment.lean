import ContractRollout.Chain.Attribute
import ContractRollout.Chain.Confirmation
import ContractRollout.Chain.Wallet
import ContractRollout.Rollout.Deployer

/-!
# Deployment on a chain

A contract is deployed by two transactions of the node's command line: one stores its
code, the other one instantiates the code that the first was given. Each is sent once
and confirmed before anything else happens.
-/

namespace ContractRollout

/-- A deployed contract. -/
structure Deployment where
  address : Json
  codeId : Int
  storeHash : Json
  instantiateHash : Json

/-- The code id in an attribute. Texts are read as integers; numbers lose their fraction. -/
def codeIdOf (value hash : Json) : Except Fault Int :=
  let invalid := .error (.deployment (.codeIdInvalid value hash))
  match value with
  | .string text =>
      match integerOfText? text with
      | some codeId => .ok codeId
      | none => invalid
  | .bool held => .ok (if held then 1 else 0)
  | .number (.real .nan) => invalid
  | .number number =>
      match number.truncate? with
      | some codeId => .ok codeId
      | none => .error .outOfRange
  | _ => .error .wrongKind

/-- Everything that the deployer of a chain needs. -/
structure ChainDeployer where
  connection : Connection
  wallet : Wallet
  patience : Patience := {}

namespace ChainDeployer

variable (deployer : ChainDeployer)

/-- The arguments that every transaction has at its end. -/
def flags (chainId : Json) : List Json :=
  let settings := deployer.connection.settings
  let node := if settings.nodeUrl.isEmpty then [] else ["--node", settings.nodeUrl]
  ["--from", deployer.wallet.keyName, "--keyring-backend", settings.keyringBackend,
      "--chain-id"].map Json.string
    ++ [chainId]
    ++ (["--gas", "auto", "--gas-adjustment", settings.gasAdjustment, "--gas-prices",
      settings.gasPrices, "--broadcast-mode", "sync", "--output", "json", "-y"]
        ++ node).map Json.string

/-- The hash of a submitted transaction, from what the command line answers. -/
def submittedHash (output : String) : Except Fault Json := do
  match Json.read output.toList with
  | .error _ => throw (.deployment (.outputUnreadable (stripped output)))
  | .ok answer =>
      let submitted ← answer.asMembers
      if !Json.isAccepted submitted then
        throw (.deployment (.transactionRejected (submitted.value "raw_log")))
      let hash := submitted.value "txhash"
      if hash.isTruthy then return hash else throw (.deployment .hashMissing)

/-- Send a transaction and wait for it. -/
def broadcast (verb : String) (arguments : List Json) : ChainAction Members := do
  let connection := deployer.connection
  let chainId ← connection.chainId
  let command := [connection.settings.chainBinary, "tx", "wasm", verb].map Json.string
  match ← runCommand connection.surroundings (command ++ arguments ++ deployer.flags chainId) with
  | .notFound => throw (.deployment (.binaryMissing connection.settings.chainBinary))
  | .denied => throw .commandDenied
  | .exited complaint output =>
      let told := complaint.getD ""
      let told := if told.isEmpty then output.getD "" else told
      throw (.deployment (.commandFailed ("tx wasm " ++ verb) (stripped told)))
  | .succeeded output =>
      let hash ← orFault (submittedHash output)
      connection.confirm deployer.patience hash

/-- Store the code of a wasm file; the answer is its code id and the transaction's hash. -/
def storeCode (files : FileTree) (wasmPath : Path) : ChainAction (Int × Json) := do
  let found ← orFault ((files.holdsFile wasmPath).mapError .file)
  if !found then throw (.deployment (.wasmMissing wasmPath))
  printLine ("[INFO] Uploading " ++ wasmPath.name ++ "...")
  let transaction ← deployer.broadcast "store" [.string wasmPath.toString]
  let hash := transaction.value "txhash"
  let found ← orFault
    ((Json.object transaction).eventAttribute (.string "store_code") (.string "code_id"))
  match found with
  | none => throw (.deployment (.codeIdMissing hash))
  | some value =>
      let codeId ← orFault (codeIdOf value hash)
      printLine ("[OK] Code id: " ++ String.ofList (integerText codeId))
      return (codeId, hash)

/-- Instantiate stored code; the answer is the contract's address and the transaction's
hash. -/
def instantiate (codeId : Int) (initMessage label admin : Json) :
    ChainAction (Json × Json) := do
  match initMessage.write .compact with
  | .error error => throw (.deployment (.initMessageUnwritable label error))
  | .ok message =>
      let code := String.ofList (integerText codeId)
      let authority :=
        if admin.isTruthy then [.string "--admin", admin] else [.string "--no-admin"]
      printLine ("[INFO] Instantiating code " ++ code ++ " as " ++ label.quotedText ++ "...")
      let transaction ← deployer.broadcast "instantiate"
        ([.string code, .string (String.ofList message), .string "--label", label] ++ authority)
      let hash := transaction.value "txhash"
      let found ← orFault
        ((Json.object transaction).eventAttribute (.string "instantiate")
          (.string "_contract_address"))
      match found with
      | none => throw (.deployment (.addressMissing hash))
      | some address => return (address, hash)

/-- Deploy a contract: store its code, then instantiate it. -/
def deploy (files : FileTree) (admin : Json) (wasmPath : Path) (initMessage label : Json) :
    ChainAction Deployment := do
  if !label.isTruthy then throw (.deployment .labelMissing)
  let (codeId, storeHash) ← deployer.storeCode files wasmPath
  let (address, instantiateHash) ← deployer.instantiate codeId initMessage label admin
  return ⟨address, codeId, storeHash, instantiateHash⟩

/-- The deployer of a chain for runs. -/
def toDeployer : Deployer Session where
  deploy files request := do
    let deployment ← deployer.deploy files request.admin request.wasmPath
      (.object request.initMessage) request.label
    return deployment.address
  announce := Session.print

end ChainDeployer

end ContractRollout
