import ContractRollout.Record.Store
import ContractRollout.Rollout.Deployer
import ContractRollout.Rollout.Step

/-!
# Runs

A run takes its steps strictly in order, and the first fault ends it. A contract whose
address is in the record is skipped without asking the deployer, and every address is
saved before the next step, so that a run can be repeated.
-/

namespace ContractRollout

/-- What stays the same during a run. -/
structure Rollout (σ : Type) where
  deployer : Deployer σ
  configs : ChainConfigs
  store : ArtifactStore
  wasmPath : Path
  keyName : String

/-- What changes during a run. -/
structure RunState (σ : Type) where
  record : NetworkRecord
  files : FileTree
  chain : σ

/-- A part of a run. -/
abbrev RunAction (σ : Type) := EStateM Fault (RunState σ)

namespace RunAction

/-- An action on the record as a part of a run. -/
def ofRecord {σ α : Type} (action : EStateM Fault NetworkRecord α) : RunAction σ α := fun state =>
  match action state.record with
  | .ok value record => .ok value { state with record := record }
  | .error fault record => .error fault { state with record := record }

/-- An action of the deployer as a part of a run. -/
def ofChain {σ α : Type} (action : FileTree → EStateM Fault σ α) : RunAction σ α := fun state =>
  match action state.files state.chain with
  | .ok value chain => .ok value { state with chain := chain }
  | .error fault chain => .error fault { state with chain := chain }

def ofFiles {σ α : Type} (action : EStateM Fault FileTree α) : RunAction σ α := fun state =>
  match action state.files with
  | .ok value files => .ok value { state with files := files }
  | .error fault files => .error fault { state with files := files }

end RunAction

namespace Rollout

variable {σ : Type} (rollout : Rollout σ)

def announce (line : String) : RunAction σ Unit :=
  modify fun state => { state with chain := rollout.deployer.announce line state.chain }

def deploy (step : DeploymentStep) (resolved : ResolvedContract) : RunAction σ Json :=
  RunAction.ofChain fun files => rollout.deployer.deploy files {
    keyName := rollout.keyName
    admin := resolved.admin
    wasmPath := rollout.wasmPath.join (.ofString step.wasmFile)
    initMessage := resolved.initMessage
    label := resolved.label
  }

/-- The fault of a step whose contract is deployed but not recorded. -/
def unrecorded (step : DeploymentStep) (network address : Json) : Fault → Fault
  | .persistence fault =>
      .persistence ⟨.unrecorded step.name address fault.cause, network, step.recordField, address⟩
  | fault => fault

/-- Put the address of a step into the record and save it. -/
def keep (step : DeploymentStep) (address : Json) : RunAction σ Unit := do
  RunAction.ofRecord (NetworkRecord.set step.recordField address)
  let record := (← get).record
  RunAction.ofFiles
    (EStateM.adaptExcept (unrecorded step record.network address)
      (rollout.store.write record record.network))

/-- Deploy the contract of a step unless the record has it, and answer with its address. -/
def deployStep (step : DeploymentStep) : RunAction σ Json := do
  let record := (← get).record
  match record.get? step.recordField with
  | some address =>
      rollout.announce ("[OK] " ++ step.name ++ " already deployed: " ++ address.text)
      return address
  | none =>
      match step.missingDependencies record with
      | dependency :: _ => throw (.dependencyMissing step.name dependency.name)
      | [] =>
          let resolved ← orFault (step.resolve rollout.configs record)
          rollout.announce ("[INFO] Deploying " ++ step.name ++ "...")
          let address ← rollout.deploy step resolved
          rollout.keep step address
          rollout.announce ("[OK] " ++ step.name ++ " address: " ++ address.text)
          return address

/-- Start a step on the stored record of a network. -/
def readRecord (network : Json) : RunAction σ Unit := do
  let record ← orFault (rollout.store.read (← get).files network)
  modify fun state => { state with record := record }

/-- Run steps in order, each on the stored record, and answer with their addresses. -/
def runSteps (network : Json) : List DeploymentStep → RunAction σ Members
  | [] => return []
  | step :: rest => do
      rollout.readRecord network
      let address ← rollout.deployStep step
      let addresses ← runSteps network rest
      return (step.name, address) :: addresses

/-- Run steps on a network and answer with the address of each contract by step name. -/
def run (network : Json) (steps : List DeploymentStep) : RunAction σ Members := do
  let _ ← orFault rollout.configs.requireMultisig
  return (← rollout.runSteps network steps).collect

end Rollout

end ContractRollout
