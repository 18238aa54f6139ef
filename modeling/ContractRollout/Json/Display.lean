import ContractRollout.Json.Basic
import ContractRollout.Number.Integer
import ContractRollout.Number.Shortest
import ContractRollout.Text.Quoted

/-!
# Values in messages

A message shows a text as it is and any other value in a bracketed form with texts
in quotes.
-/

namespace ContractRollout

/-- Doubles in messages: positional from a ten-thousandth to below ten to the sixteenth. -/
def messageLayout : Binary64.Layout := ⟨-4, 16, 2, "nan".toList, "inf".toList⟩

def Number.text : Number → List Char
  | .integer value => integerText value
  | .real value => value.render messageLayout

namespace Json

mutual

/-- The bracketed form of a value. -/
def bracketed : Json → List Char
  | null => "None".toList
  | bool value => if value then "True".toList else "False".toList
  | number value => value.text
  | string text => quoted text
  | array items => '[' :: [',', ' '].intercalate (bracketedItems items) ++ [']']
  | object members => '\x7b' :: [',', ' '].intercalate (bracketedMembers members) ++ ['\x7d']
  | foreign _ text => text.toList

def bracketedItems : List Json → List (List Char)
  | [] => []
  | item :: rest => bracketed item :: bracketedItems rest

def bracketedMembers : List (String × Json) → List (List Char)
  | [] => []
  | (key, value) :: rest =>
      (quoted key ++ ':' :: ' ' :: bracketed value) :: bracketedMembers rest

end

/-- A value as it stands in a message. -/
def text : Json → String
  | string text => text
  | value => String.ofList value.bracketed

/-- A value in quotes or brackets, as it stands in a message that sets it off. -/
def quotedText (value : Json) : String := String.ofList value.bracketed

end Json

end ContractRollout
