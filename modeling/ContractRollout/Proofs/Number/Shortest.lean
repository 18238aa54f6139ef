import ContractRollout.Number.Shortest
import ContractRollout.Proofs.Number.Rounding

/-!
# Shortest decimals read back

A decimal is rounded by its value, whether its power of ten is computed or not. Seventeen
digits are enough to come close to any double, so the search for the shortest decimal ends
with one that is rounded to the double. Trailing zeros do not matter.
-/

namespace ContractRollout

namespace Binary64

theorem ofMagnitude_of_large (negative : Bool) {value : Rat} (large : 2 ^ 1024 ≤ value) :
    ofMagnitude negative value = .infinite negative := by
  have positive : 0 < value := lt_of_lt_of_le (by positivity) large
  have leading : 1024 ≤ Int.log 2 value := by
    apply (Int.zpow_le_iff_le_log (b := 2) (by decide) positive).mp
    exact_mod_cast large
  have great : greatestExponent < (place value).2 := by
    have greatest : greatestExponent = 971 := rfl
    unfold place
    dsimp only
    split <;> omega
  rw [ofMagnitude, if_neg positive.ne', if_pos great]

theorem ofMagnitude_of_small (negative : Bool) {value : Rat} (nonnegative : 0 ≤ value)
    (small : value < 2 ^ (-1075 : Int)) : ofMagnitude negative value = zero negative := by
  rcases nonnegative.eq_or_lt with rfl | positive
  · exact if_pos rfl
  have leading : Int.log 2 value < -1075 := by
    apply (Int.lt_zpow_iff_log_lt (b := 2) (by decide) positive).mp
    exact_mod_cast small
  have exponent : max (Int.log 2 value - 52) leastExponent = leastExponent := by
    have least : leastExponent = -1074 := rfl
    omega
  have power : (0 : Rat) < 2 ^ leastExponent := zpow_pos (by norm_num) _
  have half : (2 : Rat) ^ (-1075 : Int) = 1 / 2 * 2 ^ leastExponent := by
    have same : (-1075 : Int) = -1 + leastExponent := rfl
    rw [same, zpow_add₀ (by norm_num)]
    norm_num
  have none : nearestNatural (value / 2 ^ leastExponent) = 0 := by
    apply nearestNatural_of_near
    rw [Nat.cast_zero, sub_zero, abs_of_pos (div_pos positive power), div_lt_iff₀ power, ← half]
    exact small
  have placed : place value = (0, leastExponent) := by
    simp only [place, exponent, none]
    rfl
  rw [ofMagnitude, if_neg positive.ne', placed]
  rfl

end Binary64

namespace Decimal

open Binary64

/-! ### Values of decimals -/

theorem digitCount_bounds {number : Nat} (positive : 0 < number) :
    10 ^ (digitCount number - 1) ≤ number ∧ number < 10 ^ digitCount number := by
  have count : 0 < digitCount number := Nat.length_toDigits_pos
  refine ⟨?_, (Nat.length_toDigits_le_iff (by decide) count).mp le_rfl⟩
  by_cases single : digitCount number = 1
  · rw [single]
    exact positive
  · by_contra less
    have shorter : digitCount number ≤ digitCount number - 1 :=
      (Nat.length_toDigits_le_iff (by decide) (by omega)).mpr (by omega)
    omega

/-- The point of a decimal is right after its leading power of ten. -/
theorem toRat_bounds {decimal : Decimal} (positive : 0 < decimal.digits) :
    (10 : Rat) ^ ((digitCount decimal.digits : Int) + decimal.scale - 1) ≤ decimal.toRat ∧
      decimal.toRat < (10 : Rat) ^ ((digitCount decimal.digits : Int) + decimal.scale) := by
  have count : 0 < digitCount decimal.digits := Nat.length_toDigits_pos
  obtain ⟨low, high⟩ := digitCount_bounds positive
  have power : (0 : Rat) < 10 ^ decimal.scale := zpow_pos (by norm_num) _
  have lowCast : (10 : Rat) ^ ((digitCount decimal.digits : Int) - 1) ≤ decimal.digits := by
    have same : (digitCount decimal.digits : Int) - 1 = ((digitCount decimal.digits - 1 : Nat) : Int) := by
      omega
    rw [same, zpow_natCast]
    exact_mod_cast low
  have highCast : (decimal.digits : Rat) < 10 ^ (digitCount decimal.digits : Int) := by
    rw [zpow_natCast]
    exact_mod_cast high
  unfold toRat
  constructor
  · have split : (digitCount decimal.digits : Int) + decimal.scale - 1 =
        (digitCount decimal.digits : Int) - 1 + decimal.scale := by
      ring
    rw [split, zpow_add₀ (by norm_num)]
    exact mul_le_mul_of_nonneg_right lowCast power.le
  · rw [zpow_add₀ (by norm_num)]
    exact mul_lt_mul_of_pos_right highCast power

theorem toRat_nonneg (decimal : Decimal) : 0 ≤ decimal.toRat :=
  mul_nonneg (Nat.cast_nonneg _) (zpow_nonneg (by norm_num) _)

theorem two_pow_le_ten_pow : 2 ^ 1024 ≤ 10 ^ 400 ∧ 2 ^ 1075 ≤ 10 ^ 401 := by
  decide +kernel

/-- A decimal is rounded by its value. -/
theorem toBinary64_eq (negative : Bool) (decimal : Decimal) :
    decimal.toBinary64 negative = ofMagnitude negative decimal.toRat := by
  have power (count : Nat) : Nat.pow 10 count = 10 ^ count := rfl
  unfold toBinary64
  by_cases none : decimal.digits = 0
  · have value : decimal.toRat = 0 := by simp [toRat, none]
    rw [if_pos none, value]
    exact (if_pos rfl).symm
  rw [if_neg none]
  obtain ⟨low, high⟩ := toRat_bounds (Nat.pos_of_ne_zero none)
  dsimp only
  generalize (digitCount decimal.digits : Int) + decimal.scale = point at low high ⊢
  by_cases great : 400 < point
  · rw [if_pos great, ofMagnitude_of_large]
    calc (2 : Rat) ^ 1024 ≤ 10 ^ (400 : Int) := by exact_mod_cast two_pow_le_ten_pow.1
      _ ≤ 10 ^ (point - 1) := zpow_le_zpow_right₀ (by norm_num) (by omega)
      _ ≤ decimal.toRat := low
  rw [if_neg great]
  by_cases tiny : point < -400
  · rw [if_pos tiny, ofMagnitude_of_small _ decimal.toRat_nonneg]
    calc decimal.toRat < 10 ^ point := high
      _ ≤ 10 ^ (-401 : Int) := zpow_le_zpow_right₀ (by norm_num) (by omega)
      _ ≤ 2 ^ (-1075 : Int) := by
        rw [zpow_neg, zpow_neg]
        apply inv_anti₀ (zpow_pos (by decide) _)
        exact_mod_cast two_pow_le_ten_pow.2
  rw [if_neg tiny]
  by_cases fraction : decimal.scale < 0
  · have scale : decimal.scale = -(decimal.scale.natAbs : Int) := by omega
    rw [if_pos fraction, power, ofFraction_eq _ _ (Nat.pow_pos (by decide)), toRat]
    congr 1
    nth_rewrite 2 [scale]
    rw [zpow_neg, zpow_natCast, div_eq_mul_inv]
    push_cast
    rfl
  · have scale : decimal.scale = (decimal.scale.natAbs : Int) := by omega
    rw [if_neg fraction, ofFraction_eq _ _ Nat.one_pos, power, toRat]
    congr 1
    nth_rewrite 2 [scale]
    rw [zpow_natCast]
    push_cast
    rw [div_one]

theorem toRat_trim (limit : Nat) (decimal : Decimal) : (trim limit decimal).toRat = decimal.toRat := by
  induction limit generalizing decimal with
  | zero => rfl
  | succ limit ih =>
      unfold trim
      split
      · rename_i round
        have digits : decimal.digits = 10 * (decimal.digits / 10) := by omega
        rw [ih, toRat, toRat]
        dsimp only
        nth_rewrite 2 [digits]
        rw [zpow_add_one₀ (by norm_num)]
        push_cast
        ring
      · rfl

end Decimal

namespace Binary64

open Decimal

/-! ### Leading powers of ten -/

theorem ten_zpow_le_two_zpow {guess exponent : Int} (low : -1100 ≤ exponent) (high : exponent ≤ 1100)
    (estimate : guess * 100000 ≤ exponent * 30103) : (10 : Rat) ^ (guess - 1) ≤ 2 ^ exponent := by
  by_cases natural : 0 ≤ exponent
  · by_cases small : guess - 1 ≤ 0
    · calc (10 : Rat) ^ (guess - 1) ≤ 1 := zpow_le_one_of_nonpos₀ (by norm_num) small
        _ ≤ 2 ^ exponent := one_le_zpow₀ (by norm_num) natural
    · obtain ⟨tens, same⟩ := Int.eq_ofNat_of_zero_le (show 0 ≤ guess - 1 by omega)
      obtain ⟨twos, rfl⟩ := Int.eq_ofNat_of_zero_le natural
      rw [same, zpow_natCast, zpow_natCast]
      have powers : (10 ^ tens) ^ 31 ≤ (2 ^ twos) ^ 31 := by
        calc (10 ^ tens) ^ 31 = (10 ^ 31) ^ tens := by rw [← pow_mul, ← pow_mul, Nat.mul_comm]
          _ ≤ (2 ^ 103) ^ tens := Nat.pow_le_pow_left (by norm_num) tens
          _ = 2 ^ (103 * tens) := by rw [← pow_mul]
          _ ≤ 2 ^ (twos * 31) := Nat.pow_le_pow_right (by decide) (by omega)
          _ = (2 ^ twos) ^ 31 := by rw [pow_mul]
      exact_mod_cast (Nat.pow_le_pow_iff_left (by decide)).mp powers
  · obtain ⟨tens, same⟩ := Int.eq_ofNat_of_zero_le (show 0 ≤ 1 - guess by omega)
    obtain ⟨twos, sameTwos⟩ := Int.eq_ofNat_of_zero_le (show 0 ≤ -exponent by omega)
    have guessIs : guess - 1 = -(tens : Int) := by omega
    have exponentIs : exponent = -(twos : Int) := by omega
    rw [guessIs, exponentIs, zpow_neg, zpow_neg, zpow_natCast, zpow_natCast]
    have powers : (2 ^ twos) ^ 93 ≤ (10 ^ tens) ^ 93 := by
      calc (2 ^ twos) ^ 93 = (2 ^ 93) ^ twos := by rw [← pow_mul, ← pow_mul, Nat.mul_comm]
        _ ≤ (10 ^ 28) ^ twos := Nat.pow_le_pow_left (by norm_num) twos
        _ = 10 ^ (28 * twos) := by rw [← pow_mul]
        _ ≤ 10 ^ (tens * 93) := Nat.pow_le_pow_right (by decide) (by omega)
        _ = (10 ^ tens) ^ 93 := by rw [pow_mul]
    have naturals : 2 ^ twos ≤ 10 ^ tens := (Nat.pow_le_pow_iff_left (by decide)).mp powers
    have cast : (2 : Rat) ^ twos ≤ 10 ^ tens := by exact_mod_cast naturals
    exact inv_anti₀ (by positivity) cast

theorem leadingDecimal_le {value : Rat} (positive : 0 < value) (low : -1100 ≤ Int.log 2 value)
    (high : Int.log 2 value ≤ 1100) : (10 : Rat) ^ leadingDecimal value ≤ value := by
  have numerator : 0 < value.num.natAbs := by
    have := Rat.num_pos.mpr positive
    omega
  have leading : leadingExponent value.num.natAbs value.den = Int.log 2 value := by
    have same : (value.num.natAbs / value.den : Rat) = value := by
      have whole : ((value.num.natAbs : Nat) : Rat) = (value.num : Rat) := by
        rw [Nat.cast_natAbs, abs_of_pos (Rat.num_pos.mpr positive)]
      rw [whole, Rat.num_div_den]
    rw [leadingExponent_eq numerator value.den_pos, same]
  unfold leadingDecimal
  rw [leading]
  dsimp only
  generalize guessed : (Int.log 2 value * 30103).fdiv 100000 = guess
  split
  · rename_i reaches
    exact reaches
  · split
    · rw [Int.fdiv_eq_ediv_of_nonneg _ (by decide)] at guessed
      calc (10 : Rat) ^ (guess - 1) ≤ 2 ^ Int.log 2 value :=
            ten_zpow_le_two_zpow low high (by omega)
        _ ≤ value := by exact_mod_cast Int.zpow_log_le_self (b := 2) (by decide) positive
    · rename_i reaches
      exact le_of_not_gt reaches

/-! ### The search -/

theorem log_bounds {negative : Bool} {mantissa : Nat} {exponent : Int}
    (canonical : (Binary64.finite negative mantissa exponent).Canonical) (nonzero : mantissa ≠ 0) :
    -1074 ≤ Int.log 2 ((mantissa : Rat) * 2 ^ exponent) ∧
      Int.log 2 ((mantissa : Rat) * 2 ^ exponent) < 1024 := by
  obtain ⟨small, low, high, -⟩ := canonical
  have power : (0 : Rat) < 2 ^ exponent := zpow_pos (by norm_num) exponent
  have one : (1 : Rat) ≤ mantissa := by exact_mod_cast Nat.one_le_iff_ne_zero.mpr nonzero
  have few : (mantissa : Rat) < 2 ^ (53 : Int) := by exact_mod_cast small
  have positive : (0 : Rat) < mantissa * 2 ^ exponent := mul_pos (by linarith) power
  constructor
  · apply (Int.zpow_le_iff_le_log (b := 2) (by decide) positive).mp
    rw [Nat.cast_ofNat]
    calc (2 : Rat) ^ (-1074 : Int) ≤ 2 ^ exponent := zpow_le_zpow_right₀ (by norm_num) low
      _ ≤ mantissa * 2 ^ exponent := le_mul_of_one_le_left power.le one
  · apply (Int.lt_zpow_iff_log_lt (b := 2) (by decide) positive).mp
    rw [Nat.cast_ofNat]
    calc (mantissa : Rat) * 2 ^ exponent < 2 ^ (53 : Int) * 2 ^ exponent :=
          mul_lt_mul_of_pos_right few power
      _ ≤ 2 ^ (53 : Int) * 2 ^ (971 : Int) := by
        apply mul_le_mul_of_nonneg_left _ (by positivity)
        exact zpow_le_zpow_right₀ (by norm_num) high
      _ = 2 ^ (1024 : Int) := by
        rw [← zpow_add₀ (by norm_num)]
        rfl

theorem decimalOfDigits?_reads {double : Binary64} {value : Rat} {count : Nat} {decimal : Decimal}
    (found : decimalOfDigits? double value count = some decimal) :
    decimal.toBinary64 false = double := by
  unfold decimalOfDigits? at found
  dsimp only at found
  split at found
  · rename_i both
    obtain rfl := Option.some.inj found
    split
    · exact both.1
    · exact both.2
  · split at found
    · rename_i low
      obtain rfl := Option.some.inj found
      exact low
    · split at found
      · rename_i high
        obtain rfl := Option.some.inj found
        exact high
      · simp at found

/-- A decimal is rounded to a double if it is half a unit of the seventeenth digit away. -/
theorem toBinary64_of_seventeen {mantissa : Nat} {exponent : Int}
    (canonical : (Binary64.finite false mantissa exponent).Canonical) (nonzero : mantissa ≠ 0)
    {digits : Nat} {scale : Int}
    (least : (10 : Rat) ^ (scale + 16) ≤ mantissa * 2 ^ exponent)
    (near : |mantissa * 2 ^ exponent / (10 : Rat) ^ scale - digits| ≤ 1 / 2) :
    Decimal.toBinary64 false ⟨digits, scale⟩ = .finite false mantissa exponent := by
  rw [toBinary64_eq]
  apply ofMagnitude_of_near false canonical nonzero
  have positive : (0 : Rat) < mantissa * 2 ^ exponent :=
    lt_of_lt_of_le (zpow_pos (by norm_num) _) least
  generalize (mantissa : Rat) * 2 ^ exponent = value at least near positive ⊢
  have power : (0 : Rat) < 10 ^ scale := zpow_pos (by norm_num) scale
  have unit : (10 : Rat) ^ scale * 10 ^ 16 ≤ value := by
    rw [zpow_add₀ (by norm_num)] at least
    exact_mod_cast least
  calc |Decimal.toRat ⟨digits, scale⟩ - value|
      = |value / 10 ^ scale - digits| * 10 ^ scale := by
        rw [abs_sub_comm, ← abs_of_pos power, ← abs_mul, abs_of_pos power, sub_mul,
          div_mul_cancel₀ _ power.ne', toRat]
    _ ≤ 1 / 2 * 10 ^ scale := mul_le_mul_of_nonneg_right near power.le
    _ ≤ 1 / 2 * (value / 10 ^ 16) := by
      apply mul_le_mul_of_nonneg_left _ (by norm_num)
      rwa [le_div_iff₀ (by norm_num)]
    _ < value / 2 ^ 54 := by
      norm_num
      linarith

/-- One of the two natural numbers around a number is at most half a unit away. -/
theorem near_floor {value : Rat} (nonnegative : 0 ≤ value) :
    |value - value.floor.toNat| ≤ 1 / 2 ∨ |value - (value.floor.toNat + 1 : Nat)| ≤ 1 / 2 := by
  have floorIs : (value.floor.toNat : Rat) = (⌊value⌋ : Int) := by
    exact_mod_cast Int.toNat_of_nonneg (Int.floor_nonneg.mpr nonnegative)
  have below := Int.floor_le value
  have above := Int.lt_floor_add_one value
  rw [← floorIs] at below above
  by_cases half : value - value.floor.toNat ≤ 1 / 2
  · left
    rwa [abs_of_nonneg (by linarith)]
  · right
    push_cast
    rw [abs_sub_comm, abs_of_nonneg (by linarith)]
    linarith

/-- Seventeen digits tell a double. -/
theorem decimalOfDigits?_seventeen {mantissa : Nat} {exponent : Int}
    (canonical : (Binary64.finite false mantissa exponent).Canonical) (nonzero : mantissa ≠ 0) :
    (decimalOfDigits? (.finite false mantissa exponent) (mantissa * 2 ^ exponent) 17).isSome := by
  have reads := fun digits scale => @toBinary64_of_seventeen mantissa exponent canonical nonzero
    digits scale
  obtain ⟨low, high⟩ := log_bounds canonical nonzero
  have one : (1 : Rat) ≤ mantissa := by exact_mod_cast Nat.one_le_iff_ne_zero.mpr nonzero
  have positive : (0 : Rat) < mantissa * 2 ^ exponent :=
    mul_pos (by linarith) (zpow_pos (by norm_num) exponent)
  have least := leadingDecimal_le positive (by omega) (by omega)
  generalize Binary64.finite false mantissa exponent = double at reads ⊢
  generalize (mantissa : Rat) * 2 ^ exponent = value at reads positive least ⊢
  unfold decimalOfDigits?
  dsimp only
  generalize scaleIs : leadingDecimal value + 1 - (17 : Nat) = scale
  have place : leadingDecimal value = scale + 16 := by omega
  rw [place] at least
  have either := near_floor (div_nonneg positive.le (zpow_nonneg (by norm_num) scale) :
    0 ≤ value / (10 : Rat) ^ scale)
  rcases either with lowNear | highNear
  · rw [if_pos (reads _ scale least lowNear)]
    split <;> rfl
  · rw [if_pos (reads _ scale least highNear)]
    split
    · rfl
    · split <;> rfl

/-- The decimal that a double is written as is rounded to it. -/
theorem ofMagnitude_shortest {mantissa : Nat} {exponent : Int}
    (canonical : (Binary64.finite false mantissa exponent).Canonical) (nonzero : mantissa ≠ 0) :
    ofMagnitude false
        (shortest (.finite false mantissa exponent) (mantissa * 2 ^ exponent)).toRat =
      .finite false mantissa exponent := by
  have some : (((List.range 17).map (· + 1)).findSome?
      (decimalOfDigits? (.finite false mantissa exponent) (mantissa * 2 ^ exponent))).isSome := by
    rw [List.findSome?_isSome_iff]
    exact ⟨17, by decide, decimalOfDigits?_seventeen canonical nonzero⟩
  obtain ⟨decimal, found⟩ := Option.isSome_iff_exists.mp some
  obtain ⟨count, -, given⟩ := List.exists_of_findSome?_eq_some found
  simp only [shortest, found, Option.getD_some, toRat_trim, ← toBinary64_eq]
  exact decimalOfDigits?_reads given

theorem shortest_digits_pos {mantissa : Nat} {exponent : Int}
    (canonical : (Binary64.finite false mantissa exponent).Canonical) (nonzero : mantissa ≠ 0) :
    0 < (shortest (.finite false mantissa exponent) (mantissa * 2 ^ exponent)).digits := by
  by_contra none
  have rounds := ofMagnitude_shortest canonical nonzero
  have value : (shortest (.finite false mantissa exponent) (mantissa * 2 ^ exponent)).toRat = 0 := by
    rw [toRat, Nat.eq_zero_of_not_pos none, Nat.cast_zero, zero_mul]
  rw [value, ofMagnitude, if_pos rfl] at rounds
  exact nonzero (Binary64.finite.inj rounds).2.1.symm

end Binary64

end ContractRollout
