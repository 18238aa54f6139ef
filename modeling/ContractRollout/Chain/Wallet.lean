import ContractRollout.Chain.Client

/-!
# Wallets

Transactions are signed by a key of the node's keyring. The wallet only names the key
and has its address, which is looked up in the keyring unless the settings give it.
-/

namespace ContractRollout

/-- A signing key and its address. -/
structure Wallet where
  keyName : String
  address : String
  deriving DecidableEq, Repr

namespace Connection

variable (connection : Connection)

/-- The command that shows the address of the wallet's key. -/
def showKeyCommand : List Json :=
  let settings := connection.settings
  [settings.chainBinary, "keys", "show", settings.walletKey, "-a", "--keyring-backend",
    settings.keyringBackend].map Json.string

def walletAddress : ChainAction String := do
  let settings := connection.settings
  if !settings.walletAddress.isEmpty then return settings.walletAddress
  match ← runCommand connection.surroundings connection.showKeyCommand with
  | .notFound => throw (.configuration (.binaryMissing settings.chainBinary))
  | .denied => throw .commandDenied
  | .exited complaint _ =>
      throw (.configuration (.keyRefused settings.walletKey (stripped (complaint.getD ""))))
  | .succeeded output =>
      let address := stripped output
      if address.isEmpty then throw (.configuration (.keyWithoutAddress settings.walletKey))
      return address

def wallet : ChainAction Wallet := do
  return ⟨connection.settings.walletKey, ← connection.walletAddress⟩

end Connection

end ContractRollout
