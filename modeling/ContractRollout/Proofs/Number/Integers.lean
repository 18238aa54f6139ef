import ContractRollout.Number.Basic
import ContractRollout.Proofs.Number.Rounding

/-!
# Integers as doubles

A natural number below `2 ^ 53` is a double exactly, and so is every sum of such numbers that
stays below. Comparing one of them with an integer is comparing integers.
-/

namespace ContractRollout

namespace Binary64

/-- A small natural number keeps its value when it is placed. -/
theorem place_natural {value : Nat} (positive : 0 < value) (small : value < 2 ^ 53) :
    ((place value).1 : Rat) * 2 ^ (place value).2 = value ∧ (place value).2 ≤ greatestExponent := by
  have leading : Int.log 2 (value : Rat) = Nat.log 2 value := Int.log_natCast 2 value
  have short : Nat.log 2 value < 53 := Nat.log_lt_of_lt_pow positive.ne' small
  obtain ⟨count, split⟩ : ∃ count : Nat, Nat.log 2 value + count = 52 :=
    ⟨52 - Nat.log 2 value, by omega⟩
  have exponent : max (Int.log 2 (value : Rat) - 52) leastExponent = -(count : Int) := by
    have least : leastExponent = -1074 := rfl
    omega
  have units : (value : Rat) / 2 ^ (-(count : Int)) = (value * 2 ^ count : Nat) := by
    rw [zpow_neg, zpow_natCast, div_inv_eq_mul]
    push_cast
    rfl
  have nearest : nearestNatural ((value * 2 ^ count : Nat) : Rat) = value * 2 ^ count :=
    nearestNatural_of_near (by simp)
  have greatest : greatestExponent = 971 := rfl
  have kept : ((value * 2 ^ count : Nat) : Rat) * 2 ^ (-(count : Int)) = value := by
    rw [← units, div_mul_cancel₀ _ (zpow_ne_zero _ (by norm_num))]
  unfold place
  simp only [exponent, units, nearest]
  split
  · rename_i carried
    refine ⟨?_, by omega⟩
    rw [carried] at kept
    rw [← kept, zpow_add_one₀ (by norm_num)]
    push_cast
    ring
  · exact ⟨kept, by omega⟩

/-- A small natural number is a finite double that denotes it. -/
theorem ofInt_natural {value : Nat} (small : value < 2 ^ 53) :
    ∃ mantissa exponent, ofInt value = .finite false mantissa exponent ∧
      (mantissa : Rat) * 2 ^ exponent = value := by
  have sign : decide ((value : Int) < 0) = false := by simp
  rw [ofInt, sign, Int.natAbs_natCast, ofFraction_eq false value (by decide), Nat.cast_one, div_one]
  rcases Nat.eq_zero_or_pos value with rfl | positive
  · exact ⟨0, leastExponent, by rw [Nat.cast_zero, ofMagnitude, if_pos rfl, zero], by simp⟩
  · obtain ⟨denotes, low⟩ := place_natural positive small
    have nonzero : (value : Rat) ≠ 0 := by exact_mod_cast positive.ne'
    exact ⟨(place value).1, (place value).2, by rw [ofMagnitude, if_neg nonzero, if_neg (by omega)],
      denotes⟩

theorem toRat?_ofInt {value : Nat} (small : value < 2 ^ 53) :
    (ofInt value).toRat? = some (value : Rat) := by
  obtain ⟨mantissa, exponent, double, denotes⟩ := ofInt_natural small
  rw [double, toRat?, denotes]
  rfl

/-- Adding small natural numbers as doubles is adding them. -/
theorem add_ofInt {first second : Nat} (small : first + second < 2 ^ 53)
    (positive : 0 < second) :
    (ofInt first).add (ofInt second) = ofInt (first + second : Nat) := by
  obtain ⟨_, _, firstDouble, _⟩ := ofInt_natural (by omega : first < 2 ^ 53)
  obtain ⟨_, _, secondDouble, _⟩ := ofInt_natural (by omega : second < 2 ^ 53)
  have firstValue := toRat?_ofInt (by omega : first < 2 ^ 53)
  have secondValue := toRat?_ofInt (by omega : second < 2 ^ 53)
  rw [firstDouble, secondDouble] at *
  have nonzero : ((first + second : Nat) : Rat) ≠ 0 := by exact_mod_cast (by omega : first + second ≠ 0)
  have sum : (first : Rat) + second = (first + second : Nat) := by push_cast; rfl
  simp only [add, firstValue, secondValue, Option.getD_some, sum, if_neg nonzero]
  rfl

end Binary64

namespace Number

theorem toReal?_natural {value : Nat} (small : value < 2 ^ 53) :
    (integer value).toReal? = some (Binary64.ofInt value) := by
  obtain ⟨_, _, double, _⟩ := Binary64.ofInt_natural small
  rw [toReal?, double]

/-- An integer is compared with a small natural number without rounding. -/
theorem atMost_ofInt (bound : Int) {value : Nat} (small : value < 2 ^ 53) :
    (integer bound).atMost (.real (.ofInt value)) = decide (bound ≤ value) := by
  obtain ⟨mantissa, exponent, double, -⟩ := Binary64.ofInt_natural small
  have denotes := Binary64.toRat?_ofInt small
  rw [double] at denotes ⊢
  have cast : (bound : Rat) ≤ (value : Rat) ↔ bound ≤ (value : Int) := by
    exact_mod_cast Iff.rfl
  simp only [atMost, extended, denotes, Option.getD_some, cast]

end Number

end ContractRollout
