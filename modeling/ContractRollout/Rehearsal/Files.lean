import ContractRollout.FileTree.Basic
import ContractRollout.Json.Basic
import ContractRollout.Text.CodeUnit

/-!
# File trees as values

The files below the working directory are an object from paths to contents: a text
stands for its UTF-8 bytes, other bytes are given in base sixteen, and a path with a
final slash is a directory.
-/

namespace ContractRollout

/-- The bytes that pairs of digits in base sixteen denote. -/
def bytesOfHex : List Char → List UInt8
  | first :: second :: rest =>
      ((numberOfHex? [first, second]).getD 0).toUInt8 :: bytesOfHex rest
  | _ => []

namespace Entry

/-- The entry that a value describes. -/
def ofJson : Json → Entry
  | .string text => .file text.toUTF8
  | .object [("hex", .string digits)] => .file ⟨(bytesOfHex digits.toList).toArray⟩
  | _ => .directory

/-- The value that describes an entry. -/
def toJson : Entry → Json
  | .directory => .null
  | .file content =>
      match String.fromUTF8? content with
      | some text => .string text
      | none =>
          let digits := content.toList.flatMap fun byte => hexDigits 2 byte.toNat
          .object [("hex", .string (String.ofList digits))]

end Entry

namespace FileTree

/-- The place that parts, innermost first, lead to from the working directory, and the
tree with every directory on the way. -/
def withDirectory (tree : FileTree) : List String → FileTree × Place
  | [] => (tree, .working)
  | part :: outer =>
      let (tree, holder) := tree.withDirectory outer
      if part = ".." then (tree, holder.parent)
      else
        let place := holder.child part
        (if (tree.entryAt place).isSome then tree else tree.put place .directory, place)

/-- The tree with an entry at a path and with the directories that lead to it. -/
def plant (tree : FileTree) (path : String) (entry : Entry) : FileTree :=
  match entry, (Path.ofString path).parts with
  | .file content, name :: outer =>
      let (tree, holder) := tree.withDirectory outer
      tree.put (holder.child name) (.file content)
  | _, parts => (tree.withDirectory parts).1

/-- The tree without a path and everything below it. -/
def prune (tree : FileTree) (path : String) : FileTree :=
  match tree.walk .working (Path.ofString path).parts with
  | .ok place =>
      ⟨tree.entries.filter fun (held, _) =>
        !(held.anchor = place.anchor && place.names.isSuffixOf held.names)⟩
  | .error _ => tree

/-- The tree that a value describes. -/
def ofJson : Json → FileTree
  | .object members =>
      members.foldl (fun tree (path, content) => tree.plant path (Entry.ofJson content)) .empty
  | _ => .empty

/-- The value that describes a tree below the working directory. -/
def toJson (tree : FileTree) : Json :=
  .object <| tree.entries.filterMap fun (place, entry) =>
    if place.anchor = .above 0 then
      let path := "/".intercalate place.names.reverse
      some (if entry = .directory then path ++ "/" else path, entry.toJson)
    else none

end FileTree

end ContractRollout
