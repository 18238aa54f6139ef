import ContractRollout.Bindings
import ContractRollout.FileTree.Error

/-!
# File trees

A file tree holds files and directories at places. Finding the place of a path
walks its parts from the outermost: every directory on the way has to be there, and
the first part that fails decides the error.
-/

namespace ContractRollout

/-- A directory that is always there: the root, or one at or above the working directory. -/
inductive Anchor where
  | root
  | above (levels : Nat)
  deriving DecidableEq, Repr

/-- A place in a file tree: names below an anchor, innermost first. -/
structure Place where
  anchor : Anchor
  names : List String
  deriving DecidableEq, Repr

namespace Place

def working : Place := ⟨.above 0, []⟩

/-- The directory that holds a place; the root holds itself. -/
def parent : Place → Place
  | ⟨anchor, _ :: outer⟩ => ⟨anchor, outer⟩
  | ⟨.root, []⟩ => ⟨.root, []⟩
  | ⟨.above levels, []⟩ => ⟨.above (levels + 1), []⟩

def child (place : Place) (name : String) : Place := ⟨place.anchor, name :: place.names⟩

end Place

/-- What stands at a place. -/
inductive Entry where
  | file (content : ByteArray)
  | directory

/-- Files are the same when their bytes are. -/
instance : DecidableEq Entry
  | .directory, .directory => isTrue rfl
  | .directory, .file _ => isFalse nofun
  | .file _, .directory => isFalse nofun
  | .file ⟨first⟩, .file ⟨second⟩ => decidable_of_iff (first = second) (by simp)

/-- Files and directories by place. -/
structure FileTree where
  entries : List (Place × Entry)

namespace FileTree

def empty : FileTree := ⟨[]⟩

/-- What stands at a place, if anything does. -/
def entryAt (tree : FileTree) (place : Place) : Option Entry :=
  if place.names.isEmpty then some .directory else tree.entries.lookup place

/-- Replace what stands at a place, or put it there. -/
def put (tree : FileTree) (place : Place) (entry : Entry) : FileTree :=
  ⟨Bindings.insert place entry tree.entries⟩

/-- Take away what stands at a place. -/
def erase (tree : FileTree) (place : Place) : FileTree := ⟨Bindings.erase place tree.entries⟩

theorem entryAt_put_self (tree : FileTree) {place : Place} (named : place.names ≠ [])
    (entry : Entry) : (tree.put place entry).entryAt place = some entry := by
  simp [entryAt, put, named]

theorem entryAt_put_of_ne (tree : FileTree) {place other : Place} (different : other ≠ place)
    (entry : Entry) : (tree.put place entry).entryAt other = tree.entryAt other := by
  simp [entryAt, put, Bindings.lookup_insert_of_ne different]

theorem entryAt_erase_self (tree : FileTree) {place : Place} (named : place.names ≠ []) :
    (tree.erase place).entryAt place = none := by
  simp [entryAt, erase, named]

theorem entryAt_erase_of_ne (tree : FileTree) {place other : Place} (different : other ≠ place) :
    (tree.erase place).entryAt other = tree.entryAt other := by
  simp [entryAt, erase, Bindings.lookup_erase_of_ne different]

/-- The greatest number of bytes in a name. -/
def nameLimit : Nat := 255

/-- A path has fewer bytes than this. -/
def pathLimit : Nat := 4096

/-- The place reached from `start` by parts, innermost first. -/
def walk (tree : FileTree) (start : Place) : List String → Except FileProblem Place
  | [] => .ok start
  | part :: outer => do
      let holder ← walk tree start outer
      match tree.entryAt holder with
      | none => .error .notFound
      | some (.file _) => .error .notDirectory
      | some .directory =>
          if part = ".." then .ok holder.parent
          else if nameLimit < part.utf8ByteSize then .error .nameTooLong
          else .ok (holder.child part)

/-- The place of a path. Nothing needs to stand there, but its directory has to. -/
def locate (tree : FileTree) (path : Path) : Except FileError Place :=
  let text := path.toString
  if text.toList.contains '\x00' then .error .nullCharacter
  else if pathLimit ≤ text.utf8ByteSize then .error (.refused .nameTooLong path none)
  else
    let start := if path.rooting = .relative then Place.working else ⟨.root, []⟩
    match tree.walk start path.parts with
    | .ok place => .ok place
    | .error problem => .error (.refused problem path none)

/-- What stands at a path. A path through something missing or through a file leads
nowhere, but a name that is too long is an error. -/
def find? (tree : FileTree) (path : Path) : Except FileError (Option Entry) :=
  match tree.locate path with
  | .ok place => .ok (tree.entryAt place)
  | .error (.refused .nameTooLong path target) => .error (.refused .nameTooLong path target)
  | .error _ => .ok none

/-- Whether something stands at a path. -/
def holds (tree : FileTree) (path : Path) : Except FileError Bool :=
  (tree.find? path).map Option.isSome

def holdsFile (tree : FileTree) (path : Path) : Except FileError Bool :=
  (tree.find? path).map fun
    | some (.file _) => true
    | _ => false

def holdsDirectory (tree : FileTree) (path : Path) : Except FileError Bool :=
  (tree.find? path).map fun
    | some .directory => true
    | _ => false

def content (tree : FileTree) (path : Path) : Except FileError ByteArray := do
  let place ← tree.locate path
  match tree.entryAt place with
  | none => .error (.refused .notFound path none)
  | some .directory => .error (.refused .isDirectory path none)
  | some (.file content) => .ok content

end FileTree

end ContractRollout
