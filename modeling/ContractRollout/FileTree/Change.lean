import ContractRollout.FileTree.Basic

/-!
# Changes to a file tree

Each change either happens as a whole or fails and leaves the tree as it was. Only
making a directory with its parents can stop halfway; the parents made so far stay.
-/

namespace ContractRollout

/-- A change to a file tree that may fail. -/
abbrev FileChange := EStateM FileError FileTree

namespace FileTree

def query {α : Type} (ask : FileTree → Except FileError α) : FileChange α := do
  match ask (← get) with
  | .ok answer => return answer
  | .error error => throw error

def makeDirectory (path : Path) : FileChange Unit := do
  let place ← query (·.locate path)
  match (← get).entryAt place with
  | some _ => throw (.refused .alreadyThere path none)
  | none => modify (·.put place .directory)

/-- Make one directory, unless it is there already. -/
def ensureDirectory (path : Path) : FileChange Unit := fun tree =>
  match makeDirectory path tree with
  | .ok () tree => .ok () tree
  | .error error tree =>
      match error with
      | .refused .notFound _ _ | .nullCharacter => .error error tree
      | _ =>
          match tree.holdsDirectory path with
          | .ok true => .ok () tree
          | .ok false => .error error tree
          | .error error => .error error tree

/-- Make the directory of some parts after its parents, unless it is there already. -/
def makeDirectoriesAt (rooting : Rooting) : List String → FileChange Unit
  | [] => ensureDirectory ⟨rooting, []⟩
  | part :: outer => fun tree =>
      match ensureDirectory ⟨rooting, part :: outer⟩ tree with
      | .error (.refused .notFound _ _) tree => (do
          makeDirectoriesAt rooting outer
          ensureDirectory ⟨rooting, part :: outer⟩) tree
      | result => result

/-- Make a directory and its parents, unless they are there already. -/
def makeDirectories (path : Path) : FileChange Unit :=
  makeDirectoriesAt path.rooting path.parts

/-- Write a file, whatever it held before. -/
def writeFile (path : Path) (content : ByteArray) : FileChange Unit := do
  let place ← query (·.locate path)
  match (← get).entryAt place with
  | some .directory => throw (.refused .isDirectory path none)
  | _ => modify (·.put place (.file content))

/-- Rename a file, replacing a file that has the new name. -/
def renameFile (source target : Path) : FileChange Unit := do
  let refusal (problem : FileProblem) : FileError := .refused problem source (some target)
  match (← get).locate source, (← get).locate target with
  | .ok origin, .ok destination =>
      match (← get).entryAt origin, (← get).entryAt destination with
      | none, _ => throw (refusal .notFound)
      | some _, some .directory => throw (refusal .isDirectory)
      | some entry, _ => modify fun tree => (tree.erase origin).put destination entry
  | .error (.refused problem _ _), _ | .ok _, .error (.refused problem _ _) =>
      throw (refusal problem)
  | .error .nullCharacter, _ | .ok _, .error .nullCharacter => throw .nullCharacter

def removeFile (path : Path) : FileChange Unit := do
  let place ← query (·.locate path)
  match (← get).entryAt place with
  | none => throw (.refused .notFound path none)
  | some .directory => throw (.refused .isDirectory path none)
  | some (.file _) => modify (·.erase place)

end FileTree

end ContractRollout
