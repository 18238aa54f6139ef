import ContractRollout.Chain.Session
import ContractRollout.Json.Writer
import ContractRollout.Rehearsal.Body.Decoding
import ContractRollout.Rehearsal.Files
import ContractRollout.Rollout.Run

/-!
# Rehearsals

A rehearsal lays down everything outside the program: the environment, the files, the
replies of the LCD endpoint by URL and the outcomes of commands. The last reply for a
URL is repeated for ever; commands beyond the last outcome are not found. A store may be
rehearsed that refuses every record.
-/

namespace ContractRollout

/-- Everything outside the program. -/
structure Rehearsal where
  environment : Environment
  files : FileTree
  surroundings : Surroundings

namespace Json

/-- The text of a value that is a text, nothing for other values. -/
def string? : Json → Option String
  | string text => some text
  | _ => none

/-- The value of a key in an object, null where there is none. -/
def get (value : Json) (key : String) : Json :=
  match value with
  | object members => Members.value members key
  | _ => null

/-- The items of an array, none for other values. -/
def items : Json → List Json
  | array items => items
  | _ => []

/-- The members of an object, none for other values. -/
def members : Json → Members
  | object members => members
  | _ => []

def line (value : Json) : String :=
  match value.write .spaced with
  | .ok text => String.ofList text
  | .error _ => ""

end Json

/-- Variables by name. -/
def Environment.ofJson (value : Json) : Environment :=
  value.members.filterMap fun (name, held) => held.string?.map (name, ·)

/-- A reply: the reason of a failure, or a status with a body given as a value or by the
text that its bytes spell in UTF-8. -/
def Reply.ofJson (value : Json) : Reply :=
  match (value.get "fail").string? with
  | some reason => .failed reason
  | none =>
      let status :=
        match value.get "status" with
        | .number (.integer status) => status
        | _ => 200
      match (value.get "body").string? with
      | some body => .answered status (String.ofList (receivedText body))
      | none => .answered status (value.get "json").line

def CommandOutcome.ofJson (value : Json) : CommandOutcome :=
  if (value.get "not_found").isTruthy then .notFound
  else if (value.get "denied").isTruthy then .denied
  else
    match value.get "exit" with
    | .number _ => .exited (value.get "stderr").string? (value.get "stdout").string?
    | _ =>
        match (value.get "stdout").string? with
        | some output => .succeeded output
        | none => .succeeded (value.get "json").line

namespace Surroundings

/-- Replies from a table by URL; a URL that is not in the table is not found. -/
def lcdOf (table : Json) (url : String) (earlier : Nat) : Reply :=
  let replies := (table.get url).items
  match replies[min earlier (replies.length - 1)]? with
  | some reply => Reply.ofJson reply
  | none => .answered 404 ""

def cliOf (outcomes : Json) (earlier : Nat) : CommandOutcome :=
  match outcomes.items[earlier]? with
  | some outcome => CommandOutcome.ofJson outcome
  | none => .notFound

/-- The outside that a table of replies and a list of outcomes lay down. -/
def ofJson (http cli : Json) : Surroundings := ⟨lcdOf http, cliOf cli⟩

end Surroundings

def Rehearsal.ofJson (value : Json) : Rehearsal where
  environment := Environment.ofJson (value.get "env")
  files := FileTree.ofJson (value.get "files")
  surroundings := Surroundings.ofJson (value.get "http") (value.get "cli")

namespace Rollout

variable {σ α : Type} (rollout : Rollout σ) (reason : String)

/-- The rollout with a deployer that deploys and then loses the address. -/
def losing : Rollout σ :=
  { rollout with
    deployer :=
      { rollout.deployer with
        deploy := fun files request => do
          let address ← rollout.deployer.deploy files request
          throw (.persistence ⟨.reported reason, .null, "", address⟩) } }

/-- A part of a run with a store that reads records and saves none, for a reason of its own.
The first contract deployed ends such a run with the files as they were; its step is the
first one whose contract is not in the record. -/
def refusing (steps : List DeploymentStep) (part : Rollout σ → RunAction σ α) : RunAction σ α :=
  fun state =>
    match part (rollout.losing reason) state with
    | .error fault@(.persistence ⟨_, _, _, address⟩) state =>
        match steps.find? fun step => !state.record.has step.recordField with
        | some step => (do
            RunAction.ofRecord (NetworkRecord.set step.recordField address)
            throw (unrecorded step state.record.network address fault)) state
        | none => .error fault state
    | result => result

end Rollout

end ContractRollout
