import ContractRollout.Fault.Basic
import ContractRollout.Text.Character

/-!
# Settings

How to reach the chain and where files are, taken from the environment.
-/

namespace ContractRollout

/-! ## Locations

Where files are unless the caller or the environment say otherwise, relative to the
working directory. -/

namespace Locations

/-- The file with the static configuration of the chain. -/
def chainConfigs : String := "config/chain_configs.json"

/-- The directory of the network records. -/
def artifacts : String := "artifacts"

/-- The directory of the compiled contracts. -/
def wasm : String := "../artifacts"

end Locations

/-! ## Environment variables -/

/-- The variables that are set, with their values. -/
abbrev Environment := List (String × String)

namespace Environment

/-- The value of a variable, if it is set. -/
def value? (environment : Environment) (name : String) : Option String := environment.lookup name

/-- The value of a variable, or another text when it is not set. A variable set to the
empty text counts as set. -/
def valueOr (environment : Environment) (name other : String) : String :=
  (environment.value? name).getD other

/-- Set variables on top of others. -/
def overlay (upper lower : Environment) : Environment := upper ++ lower

end Environment

/-! ## Settings -/

/-- Settings for the node command line, the LCD endpoint and the files. -/
structure Settings where
  lcdUrl : String
  walletKey : String
  walletAddress : String := ""
  chainBinary : String := "terrad"
  nodeUrl : String := ""
  keyringBackend : String := "test"
  gasPrices : String := "0.15uluna"
  gasAdjustment : String := "1.5"
  artifactsPath : Path := .ofString Locations.artifacts
  wasmPath : Path := .ofString Locations.wasm

namespace Settings

/-- A variable that has to be set to a text that is not empty. -/
def required (environment : Environment) (name : String) : Except Fault String :=
  match environment.value? name with
  | none | some "" => .error (.configuration (.settingMissing name))
  | some value => .ok value

/-- The settings in an environment. The LCD endpoint loses its final slashes, and
everything but the endpoint and the key has a default. -/
def ofEnvironment (environment : Environment) : Except Fault Settings := do
  let lcdUrl ← required environment "LCD_URL"
  let walletKey ← required environment "WALLET_KEY"
  let base : Settings := { lcdUrl := withoutTrailing '/' lcdUrl, walletKey := walletKey }
  let pathOr (name : String) (other : Path) : Path :=
    ((environment.value? name).map Path.ofString).getD other
  return {
    base with
    walletAddress := environment.valueOr "WALLET_ADDRESS" base.walletAddress
    chainBinary := environment.valueOr "CHAIN_BINARY" base.chainBinary
    nodeUrl := environment.valueOr "NODE_URL" base.nodeUrl
    keyringBackend := environment.valueOr "KEYRING_BACKEND" base.keyringBackend
    gasPrices := environment.valueOr "GAS_PRICES" base.gasPrices
    gasAdjustment := environment.valueOr "GAS_ADJUSTMENT" base.gasAdjustment
    artifactsPath := pathOr "ARTIFACTS_PATH" base.artifactsPath
    wasmPath := pathOr "WASM_PATH" base.wasmPath
  }

end Settings

end ContractRollout
