import ContractRollout.Entry.Deploy
import ContractRollout.Entry.Verify
import ContractRollout.Rehearsal.Basic

/-!
# The command line

The program rehearses one of its entry points, named by its argument: `deploy` or
`verify`. The rehearsal is read from the standard input, what the entry point prints
goes to the standard output, and the status is the one that it ends with.
-/

namespace ContractRollout

def printOutput (session : Session) : IO Unit :=
  IO.print ("\n".intercalate session.output)

/-- The status of an ending, after a fault that is not reported has been shown. -/
def statusOf {α : Type} : Ending α → IO UInt32
  | .returned _ => return 0
  | .exited status => return status.toUInt32
  | .crashed fault => do
      IO.eprintln fault.message
      return 1

end ContractRollout

open ContractRollout

def main (arguments : List String) : IO UInt32 := do
  let text ← (← IO.getStdin).readToEnd
  match Json.read text.toList with
  | .error error =>
      IO.eprintln error.message
      return 2
  | .ok value =>
      let rehearsal := Rehearsal.ofJson value
      match arguments with
      | ["deploy"] => do
          let (ending, state) :=
            DeployEntry.run rehearsal.environment rehearsal.surroundings rehearsal.files
          printOutput state.chain
          statusOf ending
      | ["verify"] => do
          let (ending, state) :=
            VerifyEntry.run rehearsal.environment rehearsal.surroundings rehearsal.files
          printOutput state.chain
          statusOf ending
      | _ => do
          IO.eprintln "usage: deploy or verify, with a rehearsal on the standard input"
          return 2
