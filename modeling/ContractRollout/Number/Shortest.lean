import ContractRollout.Number.Binary64

/-!
# Shortest decimals

The decimal text of a double has the fewest digits that still read back as the
same double, and among those the digits nearest to the double's own value. The
search compares exact rational numbers: for every number of digits it tries the
two decimals around the value and keeps the first that reads back.
-/

namespace ContractRollout

/-- The decimal fraction `digits * 10 ^ scale`. -/
structure Decimal where
  digits : Nat
  scale : Int
  deriving DecidableEq, Repr

namespace Decimal

def toRat (decimal : Decimal) : Rat := (decimal.digits : Rat) * (10 : Rat) ^ decimal.scale

/-- The number of decimal digits of a natural number; zero has one. -/
def digitCount (number : Nat) : Nat := (Nat.toDigits 10 number).length

/-- The double nearest to plus or minus a decimal. Decimals beyond every double
are decided by their place alone, so that no huge power of ten is computed. -/
def toBinary64 (negative : Bool) (decimal : Decimal) : Binary64 :=
  if decimal.digits = 0 then Binary64.zero negative
  else
    let point := (digitCount decimal.digits : Int) + decimal.scale
    if 400 < point then .infinite negative
    else if point < -400 then Binary64.zero negative
    else if decimal.scale < 0 then
      Binary64.ofFraction negative decimal.digits (Nat.pow 10 decimal.scale.natAbs)
    else Binary64.ofFraction negative (decimal.digits * Nat.pow 10 decimal.scale.natAbs) 1

/-- Drop trailing zeros from the digits, at most `limit` of them. -/
def trim : Nat → Decimal → Decimal
  | 0, decimal => decimal
  | limit + 1, decimal =>
      if decimal.digits ≠ 0 ∧ decimal.digits % 10 = 0 then
        trim limit ⟨decimal.digits / 10, decimal.scale + 1⟩
      else decimal

end Decimal

namespace Binary64

/-- The exponent of the greatest power of ten that is at most a positive number. -/
def leadingDecimal (value : Rat) : Int :=
  let guess := (leadingExponent value.num.natAbs value.den * 30103).fdiv 100000
  if (10 : Rat) ^ (guess + 1) ≤ value then guess + 1
  else if value < (10 : Rat) ^ guess then guess - 1
  else guess

/-- The decimal of at most `count` digits nearest to `value` that reads back as
`double`, if there is one; a tie goes to the even digit. -/
def decimalOfDigits? (double : Binary64) (value : Rat) (count : Nat) : Option Decimal :=
  let scale := leadingDecimal value + 1 - count
  let exact := value / (10 : Rat) ^ scale
  let low : Decimal := ⟨exact.floor.toNat, scale⟩
  let high : Decimal := ⟨low.digits + 1, scale⟩
  let lowReads := low.toBinary64 false = double
  let highReads := high.toBinary64 false = double
  if lowReads ∧ highReads then
    let below := exact - low.digits
    let above := high.digits - exact
    some (if below < above ∨ (below = above ∧ low.digits % 2 = 0) then low else high)
  else if lowReads then some low
  else if highReads then some high
  else none

/-- The shortest decimal of a positive finite double whose value is given. Seventeen
digits always tell doubles apart. -/
def shortest (double : Binary64) (value : Rat) : Decimal :=
  let counts := (List.range 17).map (· + 1)
  ((counts.findSome? (decimalOfDigits? double value)).getD ⟨0, 0⟩).trim 20

/-- How a double is laid out as text. -/
structure Layout where
  /-- A decimal point at this place or before it calls for an exponent. -/
  leastPoint : Int
  /-- A decimal point after this place calls for an exponent. -/
  greatestPoint : Int
  /-- An exponent is filled up with zeros to this many digits. -/
  exponentDigits : Nat
  nanText : List Char
  infinityText : List Char

/-- Digits with a decimal point, at least one digit on either side of it. -/
def positional (digits : List Char) (point : Int) : List Char :=
  if point ≤ 0 then
    '0' :: '.' :: (List.replicate point.natAbs '0' ++ digits)
  else if digits.length ≤ point.toNat then
    digits ++ List.replicate (point.toNat - digits.length) '0' ++ ['.', '0']
  else digits.take point.toNat ++ '.' :: digits.drop point.toNat

/-- Digits with an exponent: one digit before the point, and no point without digits after it. -/
def scientific (layout : Layout) (digits : List Char) (point : Int) : List Char :=
  let fraction := digits.drop 1
  let exponent := point - 1
  let exponentText := Nat.toDigits 10 exponent.natAbs
  digits.take 1 ++ (if fraction.isEmpty then [] else '.' :: fraction)
    ++ 'e' :: (if exponent < 0 then '-' else '+')
    :: (List.replicate (layout.exponentDigits - exponentText.length) '0' ++ exponentText)

/-- The text of a positive decimal. -/
def layOut (layout : Layout) (decimal : Decimal) : List Char :=
  let digits := Nat.toDigits 10 decimal.digits
  let point := (digits.length : Int) + decimal.scale
  if layout.leastPoint < point ∧ point ≤ layout.greatestPoint then positional digits point
  else scientific layout digits point

/-- The text of a double. -/
def render (layout : Layout) : Binary64 → List Char
  | .nan => layout.nanText
  | .infinite negative => (if negative then ['-'] else []) ++ layout.infinityText
  | .finite negative mantissa exponent =>
      let value := (mantissa : Rat) * (2 : Rat) ^ exponent
      (if negative then ['-'] else [])
        ++ (if mantissa = 0 then ['0', '.', '0']
            else layOut layout (shortest (.finite false mantissa exponent) value))

end Binary64

end ContractRollout
