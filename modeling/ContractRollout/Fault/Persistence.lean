import ContractRollout.FileTree.Error
import ContractRollout.Json.Display
import ContractRollout.Json.Writer

/-!
# Persistence faults

A record that could not be saved. The fault of a step that did deploy names what is
on chain but not recorded.
-/

namespace ContractRollout

/-- A reason why a record was not written to its file. -/
inductive SaveError where
  | file (error : FileError)
  | value (error : Json.WriteError)
  deriving DecidableEq, Repr

def SaveError.message : SaveError → String
  | file error => error.message
  | value error => error.message

/-- A cause for not having saved a record. -/
inductive PersistenceCause where
  | unsaved (path : Path) (error : SaveError)
  /-- A store of another kind did not save, for a reason in its own words. -/
  | reported (reason : String)
  /-- A contract was deployed and the record was not saved. -/
  | unrecorded (contract : String) (address : Json) (cause : PersistenceCause)

def PersistenceCause.message : PersistenceCause → String
  | unsaved path error =>
      "Failed to save network record " ++ path.toString ++ ": " ++ error.message
  | reported reason => reason
  | unrecorded contract address cause =>
      contract ++ " deployed at " ++ address.text ++ " but the record was not saved: "
        ++ cause.message

/-- A persistence fault with what has to be recorded by hand. -/
structure PersistenceFault where
  cause : PersistenceCause
  network : Json
  field : String
  address : Json

end ContractRollout
