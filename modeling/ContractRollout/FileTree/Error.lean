import ContractRollout.FileTree.Path
import ContractRollout.Text.Quoted

/-!
# File errors

A file operation fails for one of a few reasons of the file system, told with its
number and the path, or because the path holds a null character.
-/

namespace ContractRollout

/-- What the file system objects to. -/
inductive FileProblem where
  | notFound
  | alreadyThere
  | notDirectory
  | isDirectory
  | nameTooLong
  deriving DecidableEq, Repr

def FileProblem.number : FileProblem → Nat
  | notFound => 2
  | alreadyThere => 17
  | notDirectory => 20
  | isDirectory => 21
  | nameTooLong => 36

def FileProblem.text : FileProblem → String
  | notFound => "No such file or directory"
  | alreadyThere => "File exists"
  | notDirectory => "Not a directory"
  | isDirectory => "Is a directory"
  | nameTooLong => "File name too long"

/-- A failed file operation. -/
inductive FileError where
  /-- The file system refused a path, or to rename it to another one. -/
  | refused (problem : FileProblem) (path : Path) (target : Option Path)
  | nullCharacter
  deriving DecidableEq, Repr

namespace FileError

def message : FileError → String
  | refused problem path target =>
      let renamed :=
        match target with
        | none => ""
        | some target => " -> " ++ String.ofList (quoted target.toString)
      "[Errno " ++ toString problem.number ++ "] " ++ problem.text ++ ": "
        ++ String.ofList (quoted path.toString) ++ renamed
  | nullCharacter => "embedded null byte"

end FileError

end ContractRollout
