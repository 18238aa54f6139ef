import ContractRollout.Fault.Configuration
import ContractRollout.Fault.Deployment
import ContractRollout.Fault.Persistence

/-!
# Faults

Everything that can end an operation. The first four kinds are failures of a rollout
that the entry points report; the others come from data of an unexpected shape and
are passed on as they are.
-/

namespace ContractRollout

/-- What ended an operation. -/
inductive Fault where
  | configuration (cause : ConfigurationCause)
  | dependencyMissing (contract dependency : String)
  | deployment (cause : DeploymentCause)
  | persistence (fault : PersistenceFault)
  /-- A recorded address would have been replaced by another one. -/
  | overwrite (field : String) (held network : Json)
  | file (error : FileError)
  /-- The node command line may not be run. -/
  | commandDenied
  /-- A file is not UTF-8. -/
  | encoding
  /-- No contract has a part with this key in the chain configs. -/
  | partUnknown (key : String)
  /-- A field was asked of a value that is not an object. -/
  | notAnObject
  /-- A value of a kind that the operation does not take. -/
  | wrongKind
  /-- A value of the right kind that the operation does not take. -/
  | wrongValue
  /-- A number beyond the range of the operation. -/
  | outOfRange
  /-- Waiting would never end. -/
  | unending

namespace Fault

def message : Fault → String
  | configuration cause => cause.message
  | dependencyMissing contract dependency =>
      "Cannot deploy " ++ contract ++ ": please deploy the " ++ dependency ++ " contract first"
  | deployment cause => cause.message
  | persistence fault => fault.cause.message
  | overwrite field held network =>
      field ++ " already recorded as " ++ held.text ++ " on " ++ network.text
        ++ ", refusing to overwrite"
  | file error => error.message
  | commandDenied => "[Errno 13] Permission denied"
  | encoding => "not UTF-8"
  | partUnknown key => "no contract has the key " ++ key
  | notAnObject => "not an object"
  | wrongKind => "wrong kind of value"
  | wrongValue => "wrong value"
  | outOfRange => "number out of range"
  | unending => "waiting without end"

/-- Whether a fault is a failure of the rollout that is reported to the user. -/
def isReported : Fault → Bool
  | configuration _ | dependencyMissing _ _ | deployment _ | persistence _ => true
  | _ => false

end Fault

/-- The fault of a document that cannot be used. Only what the file system or the
grammar objects to is a cause; an unreadable encoding or integer passes as it is. -/
def DocumentError.fault (cause : DocumentError → ConfigurationCause) : DocumentError → Fault
  | encoding => .encoding
  | error@(text found) =>
      if found.problem = .longInteger then .wrongValue else .configuration (cause error)
  | error => .configuration (cause error)

/-- Go on with a result or end with its fault. -/
def orFault {α σ : Type} : Except Fault α → EStateM Fault σ α
  | .ok value => pure value
  | .error fault => throw fault

end ContractRollout
