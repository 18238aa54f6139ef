import ContractRollout.Config.Contract
import ContractRollout.Config.Settings

/-!
# Chain configuration

The chain configs file has general information, of which the multisig is used, and
one part for each contract.
-/

namespace ContractRollout

/-- The contracts that have a part of their own in the chain configs. -/
inductive ConfigPart where
  | cw20Ics20
  | controller
  | satellite
  deriving DecidableEq, Repr

def ConfigPart.key : ConfigPart → String
  | cw20Ics20 => "cw20_ics20"
  | controller => "controller"
  | satellite => "satellite"

def ConfigPart.ofKey? (key : String) : Option ConfigPart :=
  [cw20Ics20, controller, satellite].find? (·.key = key)

/-- The static configuration of a chain. -/
structure ChainConfigs where
  multisig : Json
  cw20Ics20 : ContractConfig
  controller : ContractConfig
  satellite : ContractConfig

namespace ChainConfigs

def part (configs : ChainConfigs) : ConfigPart → ContractConfig
  | .cw20Ics20 => configs.cw20Ics20
  | .controller => configs.controller
  | .satellite => configs.satellite

/-- The configuration of the contract whose part has a key. -/
def contract (configs : ChainConfigs) (key : String) : Except Fault ContractConfig :=
  match ConfigPart.ofKey? key with
  | some part => .ok (configs.part part)
  | none => .error (.partUnknown key)

/-- The chain configs in a value. The parts are checked in a fixed order, so the first
one of a wrong shape is reported. -/
def ofJson (value : Json) : Except Fault ChainConfigs := do
  let members ← value.asMembers
  let general ← partMembers (members.value "generalInfo") "generalInfo"
  let part (part : ConfigPart) := ContractConfig.ofJson (members.value part.key) part.key
  return {
    multisig := (general.value "multisig").orElse (.string "")
    cw20Ics20 := ← part .cw20Ics20
    controller := ← part .controller
    satellite := ← part .satellite
  }

def requireMultisig (configs : ChainConfigs) : Except Fault Json :=
  if configs.multisig.isUnset then .error (.configuration .multisigMissing)
  else .ok configs.multisig

/-- The path of the chain configs. An empty text from the caller does not count, but an
empty variable is the working directory. -/
def path (environment : Environment) (given : Option String) : Path :=
  match given with
  | none | some "" => .ofString (environment.valueOr "CHAIN_CONFIGS_PATH" Locations.chainConfigs)
  | some text => .ofString text

/-- Load the chain configs. -/
def load (tree : FileTree) (environment : Environment) (given : Option String) :
    Except Fault ChainConfigs := do
  let path := path environment given
  let found ← (tree.holds path).mapError .file
  if !found then throw (.configuration (.configsMissing path))
  let value ← (tree.document path).mapError (·.fault (.configsUnreadable path))
  match value with
  | .object _ => ofJson value
  | _ => throw (.configuration (.configsShape path))

end ChainConfigs

end ContractRollout
