import ContractRollout.Chain.Deployment
import ContractRollout.Entry.Ending

/-!
# The deployment entry point

All contracts are deployed on the chain behind the LCD endpoint. Its id names the
network for the whole run.
-/

namespace ContractRollout

namespace DeployEntry

/-- Configuration, wallet and chain id first, then the steps. -/
def work (environment : Environment) (surroundings : Surroundings) : RunAction Session Members := do
  let configs ← orFault (ChainConfigs.load (← get).files environment none)
  let multisig ← orFault configs.requireMultisig
  let settings ← orFault (Settings.ofEnvironment environment)
  let connection : Connection := ⟨settings, surroundings⟩
  let wallet ← RunAction.ofChain fun _ => connection.wallet
  let network ← RunAction.ofChain fun _ => connection.chainId
  RunAction.ofChain fun _ => do
    printLine ("chainID: " ++ network.text ++ " wallet: " ++ wallet.address)
    printLine ("Owner multisig: " ++ multisig.text)
  let deployer : ChainDeployer := { connection := connection, wallet := wallet }
  let rollout : Rollout Session := {
    deployer := deployer.toDeployer
    configs := configs
    store := { path := settings.artifactsPath }
    wasmPath := settings.wasmPath
    keyName := wallet.keyName
  }
  rollout.run network DeploymentStep.all

/-- The lines printed before the work. -/
def banner : List String := [rule 60, "ASTROPORT IBC DEPLOYMENT", rule 60]

/-- A line of the final list: the name filled up to twenty characters, and the address. -/
def resultLine (name : String) (address : Json) : String :=
  "  " ++ name ++ String.ofList (List.replicate (20 - name.length) ' ') ++ " " ++ address.text

/-- The lines printed after the work. -/
def summary (addresses : Members) : List String :=
  ["", rule 60, "DEPLOYMENT COMPLETE", rule 60]
    ++ addresses.map fun (name, address) => resultLine name address

/-- The lines that report a failure. -/
def report : Fault → List String
  | .persistence fault => [
      "\n[ERROR] " ++ fault.cause.message,
      "[ERROR] " ++ fault.field ++ " = " ++ fault.address.text ++ " on " ++ fault.network.text
        ++ " is deployed on chain but NOT recorded.",
      "        Add it to the network record by hand before running again,",
      "        otherwise the contract will be deployed a second time."]
  | fault => ["\n[ERROR] " ++ fault.message]

def run (environment : Environment) (surroundings : Surroundings) (files : FileTree) :
    Ending Members × RunState Session :=
  match work environment surroundings ((RunState.started files).printed banner) with
  | .ok addresses state => (.returned addresses, state.printed (summary addresses))
  | .error fault state =>
      if fault.isReported then (.exited 1, state.printed (report fault))
      else (.crashed fault, state)

end DeployEntry

end ContractRollout
