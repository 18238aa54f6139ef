import ContractRollout.Text.CodeUnit
import ContractRollout.Text.Printable

/-!
# Quoted text

Names in messages stand in quotes: single ones, or double ones around a text with
single quotes and no double ones. A backslash, the quote in use and what is not
printable are escaped.
-/

namespace ContractRollout

/-- A character that is not printable, by its code point in the shortest of three widths. -/
def escapedByCode (character : Char) : List Char :=
  let code := character.toNat
  if code < 0x100 then '\x5c' :: 'x' :: hexDigits 2 code
  else if code < 0x10000 then '\x5c' :: 'u' :: hexDigits 4 code
  else '\x5c' :: 'U' :: hexDigits 8 code

def quotedCharacter (quote character : Char) : List Char :=
  if character = quote || character = '\x5c' then ['\x5c', character]
  else if character = '\n' then ['\x5c', 'n']
  else if character = '\r' then ['\x5c', 'r']
  else if character = '\t' then ['\x5c', 't']
  else if isPrintable character then [character]
  else escapedByCode character

def quoted (text : String) : List Char :=
  let characters := text.toList
  let quote :=
    if characters.contains '\x27' && !characters.contains '\x22' then '\x22' else '\x27'
  quote :: characters.flatMap (quotedCharacter quote) ++ [quote]

end ContractRollout
