import ContractRollout.Text.Lines

/-!
# Paths

A path is read once into its parts, so that repeated slashes, single dots and a
final slash leave no trace. Two slashes at the start differ from one and from three
or more; double dots stay. The parts are kept innermost first, so that the name and
the parent of a path are the head and the tail of one list.
-/

namespace ContractRollout

/-- How a path starts. -/
inductive Rooting where
  | relative
  | slash
  | doubleSlash
  deriving DecidableEq, Repr

/-- A path by its parts, innermost first. -/
structure Path where
  rooting : Rooting
  parts : List String
  deriving DecidableEq, Repr

namespace Path

def ofString (text : String) : Path :=
  let characters := text.toList
  let slashes := (characters.takeWhile (· == '/')).length
  let pieces := (cutAt '/' characters).filter fun piece => !piece.isEmpty && piece != ['.']
  { rooting :=
      if slashes = 0 then .relative else if slashes = 2 then .doubleSlash else .slash
    parts := (pieces.map String.ofList).reverse }

/-- The text of a path; a path without parts is a dot or its root. -/
def toString (path : Path) : String :=
  let joined := "/".intercalate path.parts.reverse
  match path.rooting with
  | .relative => if path.parts.isEmpty then "." else joined
  | .slash => "/" ++ joined
  | .doubleSlash => "//" ++ joined

/-- A path below another one. A path with a root stands for itself. -/
def join (directory path : Path) : Path :=
  if path.rooting = .relative then ⟨directory.rooting, path.parts ++ directory.parts⟩
  else path

/-- The last part of a path, empty when there is none. -/
def name (path : Path) : String := path.parts.head?.getD ""

/-- A name without its last suffix. A dot at either end of a name starts no suffix. -/
def stem (name : String) : String :=
  let backwards := name.toList.reverse
  let suffix := backwards.takeWhile (· != '.')
  let before := (backwards.dropWhile (· != '.')).drop 1
  if suffix.isEmpty || before.isEmpty then name else String.ofList before.reverse

/-- A path with the last suffix of its name replaced. -/
def withSuffix (suffix : String) (path : Path) : Path :=
  match path.parts with
  | [] => path
  | name :: outer => ⟨path.rooting, (stem name ++ suffix) :: outer⟩

end Path

end ContractRollout
