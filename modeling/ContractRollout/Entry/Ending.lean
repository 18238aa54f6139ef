import ContractRollout.Chain.Session
import ContractRollout.Rollout.Run

/-!
# Endings

An entry point returns a result, or exits with a status after it has told why, or is
ended by a fault that it does not report. Its state is that of a run on a chain, so it
may change files.
-/

namespace ContractRollout

/-- How an entry point ends. -/
inductive Ending (α : Type) where
  | returned (value : α)
  | exited (status : Nat)
  | crashed (fault : Fault)

/-- The printed output of a session, cut into lines; after the last line there is an
empty one. -/
def Session.output (session : Session) : List String :=
  let text := (session.events.filterMap Event.line?).flatMap fun line => line.toList ++ ['\n']
  (cutAt '\n' text).map String.ofList

/-- A session whose output goes on by some lines. -/
def Session.printed (lines : List String) (session : Session) : Session :=
  lines.foldl (fun session line => session.print line) session

/-- A state in which some more lines are printed. -/
def RunState.printed (lines : List String) (state : RunState Session) : RunState Session :=
  { state with chain := state.chain.printed lines }

/-- The state that an entry point starts in. -/
def RunState.started (files : FileTree) : RunState Session := ⟨.empty .null, files, {}⟩

/-- A line of equality signs. -/
def rule (width : Nat) : String := String.ofList (List.replicate width '=')

end ContractRollout
