import ContractRollout.FileTree.Basic
import ContractRollout.Json.Reader

/-!
# Documents

A document is a file that holds one value as text.
-/

namespace ContractRollout

/-- A reason why a file holds no value. -/
inductive DocumentError where
  | file (error : FileError)
  /-- The bytes are not UTF-8. -/
  | encoding
  | text (error : Json.ReadError)
  deriving DecidableEq, Repr

def DocumentError.message : DocumentError → String
  | file error => error.message
  | encoding => "not UTF-8"
  | text error => error.message

/-- The value that some bytes hold. -/
def Json.ofBytes (bytes : ByteArray) : Except DocumentError Json :=
  match fileText? bytes with
  | none => .error .encoding
  | some text => (Json.read text).mapError .text

def FileTree.document (tree : FileTree) (path : Path) : Except DocumentError Json := do
  let bytes ← (tree.content path).mapError .file
  Json.ofBytes bytes

end ContractRollout
