import ContractRollout.Text.Character

/-!
# Integers as text

An integer is written in decimal with a minus sign where needed. When read, it may
have blanks around it, one sign, leading zeros, single underscores between its
digits, and digits of any script. Texts of more than 4300 digits are refused both
ways.
-/

namespace ContractRollout

/-- The greatest number of digits that an integer may have as text. -/
def digitLimit : Nat := 4300

/-- Whether an integer has more digits than its text may have. -/
def exceedsDigitLimit (value : Int) : Bool := Nat.pow 10 digitLimit ≤ value.natAbs

def integerText (value : Int) : List Char :=
  (if value < 0 then ['-'] else []) ++ Nat.toDigits 10 value.natAbs

/-- The natural number that decimal digits denote. -/
def naturalOfDigits (digits : List Char) : Nat := Nat.ofDigitChars 10 digits 0

/-- Digits without the single underscores between them; at least one digit. -/
def digitsOf? : List Char → Option (List Char)
  | [] => none
  | [digit] => if digit.isDigit then some [digit] else none
  | digit :: '_' :: rest =>
      if digit.isDigit then (digitsOf? rest).map (digit :: ·) else none
  | digit :: rest =>
      if digit.isDigit then (digitsOf? rest).map (digit :: ·) else none

/-- The plain character that stands for a blank or a digit of any script. -/
def plainCharacter? (character : Char) : Option Char :=
  if character.toNat < 127 then some character
  else if isBlank character then some ' '
  else (digitValue? character).map Nat.digitChar

/-- The blanks that may stand around the plain text of an integer. -/
def isPlainBlank (character : Char) : Bool :=
  character == ' ' || (9 ≤ character.toNat && character.toNat ≤ 13)

/-- The sign at the start of a text, true for a minus, and what follows it. -/
def splitSign : List Char → Bool × List Char
  | '-' :: rest => (true, rest)
  | '+' :: rest => (false, rest)
  | characters => (false, characters)

def integerOfText? (text : String) : Option Int := do
  let plain ← text.toList.mapM plainCharacter?
  let trimmed := ((plain.dropWhile isPlainBlank).reverse.dropWhile isPlainBlank).reverse
  let (negative, unsigned) := splitSign trimmed
  let digits ← digitsOf? unsigned
  if digitLimit < digits.length then none
  else
    let magnitude : Int := naturalOfDigits digits
    some (if negative then -magnitude else magnitude)

end ContractRollout
