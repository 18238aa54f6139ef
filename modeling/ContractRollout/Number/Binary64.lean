/-!
# Binary floating point

A double is kept as the exact value it denotes, so that rounding, addition and
comparison are statements about rational numbers. A finite double is plus or
minus `mantissa * 2 ^ exponent` with a mantissa below `2 ^ 53`; every operation
rounds its exact result to the nearest such value, and a half goes to the even
mantissa.
-/

namespace ContractRollout

/-- A double, either finite or one of the values without a place among the rationals. -/
inductive Binary64 where
  | nan
  | infinite (negative : Bool)
  | finite (negative : Bool) (mantissa : Nat) (exponent : Int)
  deriving DecidableEq, Repr, Inhabited

namespace Binary64

/-- The exponent of the smallest positive double, shared by both zeros. -/
def leastExponent : Int := -1074

/-- The exponent of the largest finite doubles. -/
def greatestExponent : Int := 971

def zero (negative : Bool) : Binary64 := .finite negative 0 leastExponent

/-- The rational number that a finite double denotes. -/
def toRat? : Binary64 → Option Rat
  | .finite negative mantissa exponent =>
      let magnitude := (mantissa : Rat) * (2 : Rat) ^ exponent
      some (if negative then -magnitude else magnitude)
  | _ => none

/-- Division of natural numbers rounded to the nearest, a half going to the even quotient. -/
def roundQuotient (numerator denominator : Nat) : Nat :=
  let quotient := numerator / denominator
  let twice := 2 * (numerator % denominator)
  if twice < denominator then quotient
  else if denominator < twice then quotient + 1
  else quotient + quotient % 2

/-- `numerator / (denominator * 2 ^ exponent)` as a fraction of natural numbers. -/
def shiftedFraction (numerator denominator : Nat) (exponent : Int) : Nat × Nat :=
  if exponent < 0 then (numerator * Nat.pow 2 exponent.natAbs, denominator)
  else (numerator, denominator * Nat.pow 2 exponent.natAbs)

/-- The exponent of the greatest power of two that is at most `numerator / denominator`. -/
def leadingExponent (numerator denominator : Nat) : Int :=
  let guess : Int := numerator.log2 - denominator.log2
  let fraction := shiftedFraction numerator denominator guess
  if fraction.2 ≤ fraction.1 then guess else guess - 1

/-- The double nearest to plus or minus `numerator / denominator`. -/
def ofFraction (negative : Bool) (numerator denominator : Nat) : Binary64 :=
  if numerator = 0 then zero negative
  else
    let exponent := max (leadingExponent numerator denominator - 52) leastExponent
    let fraction := shiftedFraction numerator denominator exponent
    let mantissa := roundQuotient fraction.1 fraction.2
    let carried := mantissa = Nat.pow 2 53
    let exponent := if carried then exponent + 1 else exponent
    let mantissa := if carried then Nat.pow 2 52 else mantissa
    if greatestExponent < exponent then .infinite negative
    else .finite negative mantissa exponent

/-- The double nearest to a rational number; zero is the positive one. -/
def ofRat (value : Rat) : Binary64 :=
  ofFraction (value.num < 0) value.num.natAbs value.den

/-- The double nearest to an integer, infinite beyond the range of doubles. -/
def ofInt (value : Int) : Binary64 := ofFraction (value < 0) value.natAbs 1

/-- Addition rounds the exact sum. A sum of zero is negative only when both operands are. -/
def add : Binary64 → Binary64 → Binary64
  | .nan, _ | _, .nan => .nan
  | .infinite first, .infinite second => if first = second then .infinite first else .nan
  | .infinite negative, .finite .. | .finite .., .infinite negative => .infinite negative
  | first@(.finite firstNegative _ _), second@(.finite secondNegative _ _) =>
      let sum := first.toRat?.getD 0 + second.toRat?.getD 0
      if sum = 0 then zero (firstNegative && secondNegative) else ofRat sum

/-- The integer part of a finite double, rounded towards zero. -/
def truncate? : Binary64 → Option Int
  | .finite negative mantissa exponent =>
      let fraction := shiftedFraction mantissa 1 (-exponent)
      let magnitude : Int := fraction.1 / fraction.2
      some (if negative then -magnitude else magnitude)
  | _ => none

end Binary64

end ContractRollout
