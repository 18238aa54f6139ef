import ContractRollout.Json.Basic
import ContractRollout.Number.Integer
import ContractRollout.Number.Shortest
import ContractRollout.Text.CodeUnit

/-!
# Writing values

Written text holds printable ASCII characters only, line ends of an indented layout
apart. Everything else is escaped, by UTF-16 code unit where there is no shorter
form. Values are written however deeply they are nested, while a writer on a machine
gives up when its stack is used up.
-/

namespace ContractRollout

namespace Json

/-- A reason why a value has no written form. -/
inductive WriteError where
  | foreign (kind : String)
  | longInteger
  deriving DecidableEq, Repr

def WriteError.message : WriteError → String
  | foreign kind => "Object of type " ++ kind ++ " is not JSON serializable"
  | longInteger => "Exceeds the limit (4300 digits) for integer string conversion"

/-- Where written text has blanks. -/
structure Layout where
  /-- What follows the comma after an item. -/
  afterComma : List Char
  /-- What follows the colon after a key. -/
  afterColon : List Char
  /-- The width of one level of indentation, if every item has its own line. -/
  indentation : Option Nat

/-- No blanks at all, as in command arguments. -/
def Layout.compact : Layout := ⟨[], [], none⟩

/-- A blank after every comma and colon, on one line. -/
def Layout.spaced : Layout := ⟨[' '], [' '], none⟩

/-- Every item on its own line, two blanks deeper than what holds it. -/
def Layout.indented : Layout := ⟨[], [' '], some 2⟩

def Layout.lineBreak (layout : Layout) (depth : Nat) : List Char :=
  match layout.indentation with
  | none => []
  | some width => '\n' :: List.replicate (width * depth) ' '

/-- Brackets around the written items of one level. -/
def Layout.enclose (layout : Layout) (depth : Nat) (first last : Char)
    (items : List (List Char)) : List Char :=
  if items.isEmpty then [first, last]
  else
    let separator := ',' :: layout.afterComma ++ layout.lineBreak (depth + 1)
    first :: layout.lineBreak (depth + 1) ++ separator.intercalate items
      ++ layout.lineBreak depth ++ [last]

/-- The letter that stands for a character after a backslash. -/
def shortEscape? (character : Char) : Option Char :=
  if character = '\x22' || character = '\x5c' then some character
  else if character = '\n' then some 'n'
  else if character = '\r' then some 'r'
  else if character = '\t' then some 't'
  else if character = '\x0c' then some 'f'
  else if character = '\x08' then some 'b'
  else none

/-- A character inside a written text. -/
def writeCharacter (character : Char) : List Char :=
  match shortEscape? character with
  | some letter => ['\x5c', letter]
  | none =>
      if ' ' ≤ character ∧ character ≤ '~' then [character]
      else (codeUnits character).flatMap fun unit => '\x5c' :: 'u' :: hexDigits 4 unit

/-- A text in double quotes. -/
def writeString (text : String) : List Char :=
  '\x22' :: text.toList.flatMap writeCharacter ++ ['\x22']

/-- Doubles in written text. -/
def writtenReal : Binary64.Layout := ⟨-4, 16, 2, "NaN".toList, "Infinity".toList⟩

def writeNumber : Number → Except WriteError (List Char)
  | .integer value =>
      if exceedsDigitLimit value then .error .longInteger else .ok (integerText value)
  | .real value => .ok (value.render writtenReal)

mutual

/-- The written form of a value at a depth of indentation. -/
def writeAt (layout : Layout) (depth : Nat) : Json → Except WriteError (List Char)
  | null => .ok "null".toList
  | bool value => .ok (if value then "true".toList else "false".toList)
  | number value => writeNumber value
  | string text => .ok (writeString text)
  | array items => do
      return layout.enclose depth '[' ']' (← writeItems layout (depth + 1) items)
  | object members => do
      return layout.enclose depth '\x7b' '\x7d' (← writeMembers layout (depth + 1) members)
  | foreign kind _ => .error (.foreign kind)

def writeItems (layout : Layout) (depth : Nat) :
    List Json → Except WriteError (List (List Char))
  | [] => .ok []
  | item :: rest => do
      let written ← writeAt layout depth item
      return written :: (← writeItems layout depth rest)

def writeMembers (layout : Layout) (depth : Nat) :
    List (String × Json) → Except WriteError (List (List Char))
  | [] => .ok []
  | (key, value) :: rest => do
      let written ← writeAt layout depth value
      let member := writeString key ++ ':' :: layout.afterColon ++ written
      return member :: (← writeMembers layout depth rest)

end

/-- The written form of a value. -/
def write (layout : Layout) (value : Json) : Except WriteError (List Char) :=
  writeAt layout 0 value

end Json

end ContractRollout
