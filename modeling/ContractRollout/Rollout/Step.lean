import ContractRollout.Config.Chain
import ContractRollout.Record.Network

/-!
# Deployment steps

A step deploys one contract. Its init message takes, where the configuration leaves a
key open, the address of a recorded dependency or else the multisig.
-/

namespace ContractRollout

/-- An address in the network record that feeds a key of an init message. -/
structure Dependency where
  name : String
  recordField : String
  initKey : String
  required : Bool := true
  deriving DecidableEq, Repr

/-- The deployment of one contract. -/
structure DeploymentStep where
  name : String
  recordField : String
  wasmFile : String
  /-- The key of the contract's part in the chain configs. -/
  configKey : String
  dependencies : List Dependency := []
  multisigKeys : List String := []
  deriving DecidableEq, Repr

namespace DeploymentStep

/-- The required dependencies that the record does not have. -/
def missingDependencies (step : DeploymentStep) (record : NetworkRecord) : List Dependency :=
  step.dependencies.filter fun dependency =>
    dependency.required && !record.has dependency.recordField

/-- The defaults of the init message: the multisig first, then the recorded
dependencies, of which the last one for a key counts. -/
def initDefaults (step : DeploymentStep) (multisig : Json) (record : NetworkRecord) : Members :=
  let owned := step.multisigKeys.foldl (fun defaults key => Members.insert key multisig defaults) []
  step.dependencies.foldl
    (fun defaults dependency =>
      match record.get? dependency.recordField with
      | some address => Members.insert dependency.initKey address defaults
      | none => defaults)
    owned

/-- The parameters of a step under a configuration and a record. -/
def resolve (step : DeploymentStep) (configs : ChainConfigs) (record : NetworkRecord) :
    Except Fault ResolvedContract := do
  let multisig ← configs.requireMultisig
  let contract ← configs.contract step.configKey
  return contract.resolve multisig (step.initDefaults multisig record)

/-- The bridge contract for tokens, governed by the recorded governance or else by the
multisig. -/
def cw20Ics20 : DeploymentStep where
  name := "CW20-ICS20"
  recordField := "cw20Ics20Address"
  wasmFile := "astroport_cw20_ics20.wasm"
  configKey := ConfigPart.cw20Ics20.key
  dependencies := [
    { name := "Governance", recordField := "governanceAddress", initKey := "gov_contract",
      required := false }]
  multisigKeys := ["gov_contract"]

/-- The controller, which needs a recorded assembly. -/
def controller : DeploymentStep where
  name := "IBC Controller"
  recordField := "ibcControllerAddress"
  wasmFile := "ibc_controller.wasm"
  configKey := ConfigPart.controller.key
  dependencies := [
    { name := "Assembly", recordField := "assemblyAddress", initKey := "assembly" }]
  multisigKeys := ["owner"]

/-- The satellite, which follows the recorded controller. -/
def satellite : DeploymentStep where
  name := "Satellite"
  recordField := "satelliteAddress"
  wasmFile := "astro_satellite.wasm"
  configKey := ConfigPart.satellite.key
  dependencies := [
    { name := "IBC Controller", recordField := "ibcControllerAddress",
      initKey := "main_controller", required := false }]
  multisigKeys := ["owner", "emergency_owner"]

def all : List DeploymentStep := [cw20Ics20, controller, satellite]

end DeploymentStep

end ContractRollout
