import ContractRollout.Config.Settings
import ContractRollout.FileTree.Change
import ContractRollout.Record.Network

/-!
# The artifact store

Every network has one file in the directory of the store, rewritten as a whole on each
save. A record is first written to a temporary file beside it, which then takes its
name, so a save either happens or leaves the file as it was.
-/

namespace ContractRollout

/-- A directory of network records. -/
structure ArtifactStore where
  path : Path

namespace ArtifactStore

/-- The store at a path; an empty text means the default directory. -/
def ofText (text : String) : ArtifactStore :=
  { path := .ofString (if text.isEmpty then Locations.artifacts else text) }

def recordPath (store : ArtifactStore) (network : Json) : Path :=
  store.path.join (.ofString (network.text ++ ".json"))

/-- The file that a record of a network is first written to. -/
def temporaryPath (store : ArtifactStore) (network : Json) : Path :=
  (store.recordPath network).withSuffix ".json.tmp"

/-- The stored record of a network, empty when none is stored. -/
def read (store : ArtifactStore) (tree : FileTree) (network : Json) :
    Except Fault NetworkRecord := do
  let path := store.recordPath network
  let found ← (tree.holds path).mapError .file
  if !found then return .empty network
  let value ← (tree.document path).mapError (·.fault (.recordUnreadable path))
  match value with
  | .object fields => return ⟨network, fields⟩
  | _ => throw (.configuration (.recordShape path))

def saving {α : Type} (change : FileChange α) : EStateM SaveError FileTree α :=
  EStateM.adaptExcept .file change

/-- Write a record through its temporary file. -/
def save (store : ArtifactStore) (record : NetworkRecord) (network : Json) :
    EStateM SaveError FileTree Unit := do
  let temporary := store.temporaryPath network
  saving (FileTree.makeDirectories store.path)
  saving (FileTree.writeFile temporary .empty)
  match (Json.object record.fields).write .indented with
  | .error error => throw (.value error)
  | .ok text =>
      saving (FileTree.writeFile temporary (String.ofList text).toUTF8)
      saving (FileTree.renameFile temporary (store.recordPath network))

/-- Remove the temporary file, if there is one. -/
def discard (store : ArtifactStore) (network : Json) : FileChange Unit := do
  let temporary := store.temporaryPath network
  if ← FileTree.query (·.holds temporary) then FileTree.removeFile temporary

/-- Save a record as that of a network. When that fails the temporary file is removed;
a failure to remove it takes the place of the first one. -/
def write (store : ArtifactStore) (record : NetworkRecord) (network : Json) :
    EStateM Fault FileTree Unit := fun tree =>
  match store.save record network tree with
  | .ok () tree => .ok () tree
  | .error error tree => (do
      EStateM.adaptExcept Fault.file (store.discard network)
      throw (Fault.persistence
        ⟨.unsaved (store.recordPath network) error, network, "", .string ""⟩)) tree

end ArtifactStore

end ContractRollout
