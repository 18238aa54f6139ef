import ContractRollout.Chain.Client
import ContractRollout.Entry.Ending

/-!
# The verification entry point

Every contract in the record of the network is looked up on chain. The entry point has
files of its own like any other, and leaves them as they are.
-/

namespace ContractRollout

namespace VerifyEntry

/-- Look one contract up and print what the chain knows of it. -/
def verifyContract (connection : Connection) (field : String) (address : Json) :
    ChainAction Bool := do
  match ← connection.contractInfo address with
  | .null =>
      printLine ("[FAIL] " ++ field ++ ": " ++ address.text ++ " not found on chain")
      return false
  | info =>
      printLine ("[OK] " ++ field ++ ": " ++ address.text)
      let members ← orFault info.asMembers
      printLine ("       code_id: " ++ (members.value "code_id").text)
      printLine ("       admin:   " ++ ((members.value "admin").orElse (.string "-")).text)
      printLine ("       label:   " ++ (members.value "label").text)
      return true

/-- Look up the contracts of some fields in order; fields that are not populated are
left out. -/
def verifyFields (connection : Connection) (record : NetworkRecord) :
    List String → ChainAction (List (String × Bool))
  | [] => return []
  | field :: rest =>
      match record.get? field with
      | none => verifyFields connection record rest
      | some address => do
          let found ← verifyContract connection field address
          let others ← verifyFields connection record rest
          return (field, found) :: others

/-- Verify the contracts in a record; there is no answer when the record has no fields. -/
def verifyRecord (connection : Connection) (network : Json) (record : NetworkRecord) :
    ChainAction (Option (List (String × Bool))) := do
  printLine ("Network: " ++ network.text)
  printLine ""
  if record.fields.isEmpty then
    printLine ("[WARN] No contracts recorded for " ++ network.text)
    return none
  else return some (← verifyFields connection record record.fields.keys)

/-- Verify the record of the network that the node names. -/
def work (environment : Environment) (surroundings : Surroundings) :
    RunAction Session (Option (List (String × Bool))) := do
  let settings ← orFault (Settings.ofEnvironment environment)
  let connection : Connection := ⟨settings, surroundings⟩
  let network ← RunAction.ofChain fun _ => connection.chainId
  let store : ArtifactStore := { path := settings.artifactsPath }
  let record ← orFault (store.read (← get).files network)
  RunAction.ofChain fun _ => verifyRecord connection network record

/-- The lines printed before the work. -/
def banner : List String := [rule 50, "Astroport IBC Deployment Verification", rule 50]

def run (environment : Environment) (surroundings : Surroundings) (files : FileTree) :
    Ending (List (String × Bool)) × RunState Session :=
  match work environment surroundings ((RunState.started files).printed banner) with
  | .ok none state => (.exited 1, state)
  | .ok (some results) state =>
      if results.all (·.2) then
        (.returned results, state.printed ["", "Deployment verification PASSED!"])
      else (.exited 1, state.printed ["", "Deployment verification FAILED!"])
  | .error fault state =>
      if fault.isReported then (.exited 1, state.printed ["[ERROR] " ++ fault.message])
      else (.crashed fault, state)

end VerifyEntry

end ContractRollout
