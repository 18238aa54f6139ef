import ContractRollout.Number.Binary64

/-!
# Numbers

A number is an integer of any size or a double. Numbers of either kind are
compared by the place they denote on the extended line, without rounding.
-/

namespace ContractRollout

/-- An integer or a double. -/
inductive Number where
  | integer (value : Int)
  | real (value : Binary64)
  deriving DecidableEq, Repr, Inhabited

/-- A place on the extended line; what is not a number is in no order with the rest. -/
inductive ExtendedRational where
  | undefined
  | below
  | exactly (value : Rat)
  | above
  deriving DecidableEq

namespace Number

/-- The place of a number on the extended line. -/
def extended : Number → ExtendedRational
  | integer value => .exactly value
  | real .nan => .undefined
  | real (.infinite negative) => if negative then .below else .above
  | real value => .exactly (value.toRat?.getD 0)

/-- Numbers of either kind are the same when they have the same place. -/
def same (first second : Number) : Bool := first.extended = second.extended

def isZero (number : Number) : Bool := number.extended = .exactly 0

def atMost (first second : Number) : Bool :=
  match first.extended, second.extended with
  | .undefined, _ | _, .undefined => false
  | .below, _ | _, .above => true
  | .exactly low, .exactly high => low ≤ high
  | .exactly _, .below | .above, _ => false

/-- The double nearest to a number, unless that is an integer beyond all doubles. -/
def toReal? : Number → Option Binary64
  | integer value =>
      match Binary64.ofInt value with
      | .infinite _ => none
      | double => some double
  | real value => some value

/-- The integer part of a finite number, rounded towards zero. -/
def truncate? : Number → Option Int
  | integer value => some value
  | real value => value.truncate?

end Number

end ContractRollout
