import ContractRollout.Fault.Access
import ContractRollout.Json.Members

/-!
# Contract configuration

The configuration of one contract: its admin, its label and its init message. A step
never changes it but derives resolved parameters from it.

The values that are merged may be nested to any depth. A program that copies them part by
part gives up when its stack is used up, which is left aside here.
-/

namespace ContractRollout

/-! ## Defaults

Explicit values always win. A default fills a key only where the explicit message has
nothing, null or the empty text, and a default of that sort fills nothing. -/

namespace Members

def fill (merged : Members) (key : String) (value : Json) : Members :=
  if value.isUnset then merged
  else if (merged.value key).isUnset then merged.insert key value
  else merged

/-- Explicit members with defaults filled in, one default after the other. -/
def mergeDefaults (explicit defaults : Members) : Members :=
  defaults.foldl (fun merged default => merged.fill default.1 default.2) explicit

end Members

/-! ## The configuration of one contract -/

/-- The members of a part of the configuration; missing or blank counts as empty. -/
def partMembers (value : Json) (name : String) : Except Fault Members :=
  if value.isUnset then .ok []
  else
    match value with
    | .object members => .ok members
    | _ => .error (.configuration (.partShape name value.kindName))

/-- The configuration of one contract. -/
structure ContractConfig where
  admin : Json
  label : Json
  initMessage : Members

/-- What the deployer gets to know about a contract. -/
structure ResolvedContract where
  admin : Json
  initMessage : Members
  label : Json

namespace ContractConfig

/-- The configuration in a value that stands under a name. -/
def ofJson (value : Json) (name : String) : Except Fault ContractConfig := do
  let members ← partMembers value name
  let initMessage ← partMembers (members.value "initMsg") (name ++ ".initMsg")
  return {
    admin := (members.value "admin").orElse (.string "")
    label := (members.value "label").orElse (.string "")
    initMessage := initMessage
  }

/-- The configuration with an admin and defaults where it has none of its own. -/
def resolve (config : ContractConfig) (admin : Json) (defaults : Members) : ResolvedContract where
  admin := if config.admin.isUnset then admin else config.admin
  initMessage := config.initMessage.mergeDefaults defaults
  label := config.label

end ContractConfig

end ContractRollout
