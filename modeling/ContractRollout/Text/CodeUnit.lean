/-!
# Code units and hexadecimal numbers

Escapes name characters by numbers in base sixteen, those of values by code units.
-/

namespace ContractRollout

/-! ## Code units

UTF-16 writes a character beyond the first plane as a pair of code units, a high and
a low surrogate. A surrogate outside of such a pair stands for nothing. -/

def codeUnits (character : Char) : List Nat :=
  let code := character.toNat
  if code < 0x10000 then [code]
  else [0xd800 + (code - 0x10000) / 0x400, 0xdc00 + (code - 0x10000) % 0x400]

/-- The character of a pair of UTF-16 code units, a high and a low surrogate. -/
def pairedCharacter? (high low : Nat) : Option Char :=
  if 0xd800 ≤ high ∧ high < 0xdc00 ∧ 0xdc00 ≤ low ∧ low < 0xe000 then
    some (Char.ofNat (0x10000 + (high - 0xd800) * 0x400 + (low - 0xdc00)))
  else none

/-! ## Hexadecimal numbers

Escapes name characters by numbers in base sixteen of a fixed width, written with
lower-case digits and read with digits of either case. -/

/-- The lowest digits of a number in base sixteen, `width` of them. -/
def hexDigits : Nat → Nat → List Char
  | 0, _ => []
  | width + 1, number => hexDigits width (number / 16) ++ [Nat.digitChar (number % 16)]

def hexValue? (digit : Char) : Option Nat :=
  if '0' ≤ digit ∧ digit ≤ '9' then some (digit.toNat - '0'.toNat)
  else if 'a' ≤ digit ∧ digit ≤ 'f' then some (digit.toNat - 'a'.toNat + 10)
  else if 'A' ≤ digit ∧ digit ≤ 'F' then some (digit.toNat - 'A'.toNat + 10)
  else none

/-- The number that digits in base sixteen denote. -/
def numberOfHex? (digits : List Char) : Option Nat :=
  digits.foldlM (fun number digit => (hexValue? digit).map (16 * number + ·)) 0

end ContractRollout
