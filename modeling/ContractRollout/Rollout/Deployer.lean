import ContractRollout.Fault.Basic
import ContractRollout.FileTree.Basic

/-!
# Deployers

A deployer puts one contract on a chain and answers with its address. It may read
files but not change them. What it knows of the chain is a state of its own type, so a
run can be driven by a chain or by a list of outcomes laid down in advance.
-/

namespace ContractRollout

/-- What a deployer is asked to deploy. -/
structure DeployRequest where
  keyName : String
  admin : Json
  wasmPath : Path
  initMessage : Members
  label : Json

/-- A way to deploy contracts and to announce progress. -/
structure Deployer (σ : Type) where
  /-- Deploy a contract and answer with its address. -/
  deploy : FileTree → DeployRequest → EStateM Fault σ Json
  /-- Add a line to the log. -/
  announce : String → σ → σ

/-- The outcome of a deployment that is laid down in advance. -/
inductive ScriptedOutcome where
  | address (value : Json)
  | failure (message : String)
  /-- An address made from the number of calls so far. -/
  | numbered

/-- The outcomes still to come, the calls so far and the log. -/
structure Script where
  outcomes : List ScriptedOutcome := []
  calls : List DeployRequest := []
  log : List String := []

namespace Script

/-- The deployer that follows a script; after its end addresses are numbered. -/
def deployer : Deployer Script where
  deploy _ request := do
    let script ← get
    let calls := script.calls ++ [request]
    set { script with outcomes := script.outcomes.drop 1, calls := calls }
    match script.outcomes.head?.getD .numbered with
    | .address value => return value
    | .failure message => throw (.deployment (.reported message))
    | .numbered => return .string ("terra1contract" ++ toString calls.length)
  announce line script := { script with log := script.log ++ [line] }

end Script

end ContractRollout
