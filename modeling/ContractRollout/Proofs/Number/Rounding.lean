import ContractRollout.Number.Binary64
import Mathlib

/-!
# Rounding

Rounding a fraction to a double depends on nothing but the rational number that it denotes.
The result is in the one form that a double has: its mantissa is as large as the exponent
lets it be. Every number close enough to such a double is rounded to it.
-/

namespace ContractRollout

namespace Binary64

/-! ### Rounding to natural numbers -/

/-- The natural number nearest to a rational one, a half going to the even number. -/
def nearestNatural (value : Rat) : Nat :=
  let below := ⌊value⌋₊
  if value - below < 1 / 2 then below
  else if 1 / 2 < value - below then below + 1
  else below + below % 2

theorem roundQuotient_eq {numerator denominator : Nat} (positive : 0 < denominator) :
    roundQuotient numerator denominator = nearestNatural (numerator / denominator : Rat) := by
  have scale : (0 : Rat) < denominator := by exact_mod_cast positive
  have split : (numerator : Rat) =
      denominator * (numerator / denominator : Nat) + (numerator % denominator : Nat) := by
    exact_mod_cast (Nat.div_add_mod numerator denominator).symm
  have rest : (numerator / denominator : Rat) - (numerator / denominator : Nat) =
      (numerator % denominator : Nat) / denominator := by
    rw [eq_div_iff scale.ne', sub_mul, div_mul_cancel₀ _ scale.ne']
    linarith
  have less : ((numerator % denominator : Nat) / denominator : Rat) < 1 / 2 ↔
      2 * (numerator % denominator) < denominator := by
    rw [div_lt_iff₀ scale, ← Nat.cast_lt (α := Rat)]
    push_cast
    constructor <;> intro bound <;> linarith
  have more : (1 / 2 : Rat) < (numerator % denominator : Nat) / denominator ↔
      denominator < 2 * (numerator % denominator) := by
    rw [lt_div_iff₀ scale, ← Nat.cast_lt (α := Rat)]
    push_cast
    constructor <;> intro bound <;> linarith
  simp only [roundQuotient, nearestNatural, Nat.floor_div_eq_div, rest, less, more]

theorem nearestNatural_of_near {value : Rat} {natural : Nat}
    (near : |value - natural| < 1 / 2) : nearestNatural value = natural := by
  obtain ⟨above, below⟩ := abs_lt.mp near
  unfold nearestNatural
  by_cases under : (natural : Rat) ≤ value
  · have floor : ⌊value⌋₊ = natural := by
      rw [Nat.floor_eq_iff (le_trans (Nat.cast_nonneg _) under)]
      exact ⟨under, by linarith⟩
    simp only [floor]
    rw [if_pos (by linarith)]
  · have less : value < natural := lt_of_not_ge under
    cases natural with
    | zero =>
        have floor : ⌊value⌋₊ = 0 := Nat.floor_of_nonpos (by simpa using less.le)
        simp only [floor, Nat.cast_zero] at less ⊢
        rw [if_pos (by linarith)]
    | succ natural =>
        push_cast at above below less
        have floor : ⌊value⌋₊ = natural := by
          have nonnegative : (0 : Rat) ≤ natural := Nat.cast_nonneg _
          rw [Nat.floor_eq_iff (by linarith)]
          exact ⟨by linarith, less⟩
        simp only [floor]
        rw [if_neg (by linarith), if_pos (by linarith)]

theorem le_nearestNatural {value : Rat} {natural : Nat} (below : (natural : Rat) ≤ value) :
    natural ≤ nearestNatural value := by
  have floor : natural ≤ ⌊value⌋₊ := Nat.le_floor below
  unfold nearestNatural
  dsimp only
  split
  · exact floor
  · split <;> omega

theorem nearestNatural_le {value : Rat} {natural : Nat} (above : value ≤ natural) :
    nearestNatural value ≤ natural := by
  rcases above.eq_or_lt with rfl | less
  · exact (nearestNatural_of_near (by simp)).le
  · by_cases negative : value < 0
    · have none : nearestNatural value = 0 := by
        have floor : ⌊value⌋₊ = 0 := Nat.floor_of_nonpos negative.le
        simp only [nearestNatural, floor, Nat.cast_zero]
        rw [if_pos (by linarith)]
      omega
    · have floor : ⌊value⌋₊ < natural := (Nat.floor_lt (le_of_not_gt negative)).mpr less
      unfold nearestNatural
      dsimp only
      split
      · exact floor.le
      · split <;> omega

/-! ### Leading exponents -/

theorem shiftedFraction_eq (numerator : Nat) {denominator : Nat} (positive : 0 < denominator)
    (exponent : Int) :
    0 < (shiftedFraction numerator denominator exponent).2 ∧
      ((shiftedFraction numerator denominator exponent).1 /
          (shiftedFraction numerator denominator exponent).2 : Rat) =
        numerator / denominator / 2 ^ exponent := by
  have power (count : Nat) : Nat.pow 2 count = 2 ^ count := rfl
  unfold shiftedFraction
  split
  · rename_i negative
    have exponentIs : exponent = -(exponent.natAbs : Int) := by omega
    refine ⟨positive, ?_⟩
    rw [power]
    push_cast
    nth_rewrite 2 [exponentIs]
    rw [zpow_neg, zpow_natCast, div_inv_eq_mul]
    ring
  · have exponentIs : exponent = (exponent.natAbs : Int) := by omega
    refine ⟨Nat.mul_pos positive (Nat.pow_pos (by decide)), ?_⟩
    rw [power]
    push_cast
    nth_rewrite 2 [exponentIs]
    rw [zpow_natCast, div_div]

theorem log_eq {value : Rat} (positive : 0 < value) {exponent : Int}
    (below : (2 : Rat) ^ exponent ≤ value) (above : value < 2 ^ (exponent + 1)) :
    Int.log 2 value = exponent := by
  have least := (Int.zpow_le_iff_le_log (b := 2) (by decide) positive).mp (by exact_mod_cast below)
  have most := (Int.lt_zpow_iff_log_lt (b := 2) (by decide) positive).mp (by exact_mod_cast above)
  omega

theorem log2_bounds {number : Nat} (nonzero : 0 < number) :
    (2 : Rat) ^ (number.log2 : Int) ≤ number ∧ (number : Rat) < 2 ^ ((number.log2 : Int) + 1) := by
  constructor
  · exact_mod_cast Nat.log2_self_le nonzero.ne'
  · exact_mod_cast Nat.lt_log2_self

/-- The difference of the lengths is the leading exponent of a fraction or one above it. -/
theorem fraction_bounds {numerator denominator : Nat} (nonzero : 0 < numerator)
    (positive : 0 < denominator) :
    (2 : Rat) ^ ((numerator.log2 : Int) - denominator.log2 - 1) ≤ numerator / denominator ∧
      (numerator / denominator : Rat) < 2 ^ ((numerator.log2 : Int) - denominator.log2 + 1) := by
  have bottom : (0 : Rat) < denominator := by exact_mod_cast positive
  have power (exponent : Int) : (0 : Rat) < 2 ^ exponent := zpow_pos (by norm_num) exponent
  have topLog := log2_bounds nonzero
  have bottomLog := log2_bounds positive
  constructor
  · rw [le_div_iff₀ bottom]
    calc (2 : Rat) ^ ((numerator.log2 : Int) - denominator.log2 - 1) * denominator
        ≤ 2 ^ ((numerator.log2 : Int) - denominator.log2 - 1) *
            2 ^ ((denominator.log2 : Int) + 1) :=
          mul_le_mul_of_nonneg_left bottomLog.2.le (power _).le
      _ = 2 ^ (numerator.log2 : Int) := by
        rw [← zpow_add₀ (by norm_num)]
        congr 1
        omega
      _ ≤ numerator := topLog.1
  · rw [div_lt_iff₀ bottom]
    calc (numerator : Rat) < 2 ^ ((numerator.log2 : Int) + 1) := topLog.2
      _ = 2 ^ ((numerator.log2 : Int) - denominator.log2 + 1) * 2 ^ (denominator.log2 : Int) := by
        rw [← zpow_add₀ (by norm_num)]
        congr 1
        omega
      _ ≤ 2 ^ ((numerator.log2 : Int) - denominator.log2 + 1) * denominator :=
        mul_le_mul_of_nonneg_left bottomLog.1 (power _).le

theorem leadingExponent_eq {numerator denominator : Nat} (nonzero : 0 < numerator)
    (positive : 0 < denominator) :
    leadingExponent numerator denominator = Int.log 2 (numerator / denominator : Rat) := by
  have value : (0 : Rat) < numerator / denominator :=
    div_pos (by exact_mod_cast nonzero) (by exact_mod_cast positive)
  obtain ⟨below, above⟩ := fraction_bounds nonzero positive
  obtain ⟨base, fraction⟩ := shiftedFraction_eq numerator positive
    ((numerator.log2 : Int) - denominator.log2)
  unfold leadingExponent
  dsimp only
  generalize shiftedFraction numerator denominator ((numerator.log2 : Int) - denominator.log2) =
    shifted at base fraction ⊢
  have test : shifted.2 ≤ shifted.1 ↔
      (2 : Rat) ^ ((numerator.log2 : Int) - denominator.log2) ≤ numerator / denominator := by
    have baseIs : (0 : Rat) < shifted.2 := by exact_mod_cast base
    rw [← Nat.cast_le (α := Rat), ← one_le_div baseIs, fraction,
      one_le_div (zpow_pos (by norm_num) _)]
  symm
  split
  · rename_i reaches
    exact log_eq value (test.mp reaches) above
  · rename_i misses
    apply log_eq value below
    rw [sub_add_cancel]
    exact lt_of_not_ge (mt test.mpr misses)

/-! ### Rounding to doubles -/

/-- The mantissa and the exponent of the double nearest to a positive number, if there were
doubles of any size. -/
def place (value : Rat) : Nat × Int :=
  let exponent := max (Int.log 2 value - 52) leastExponent
  let mantissa := nearestNatural (value / 2 ^ exponent)
  if mantissa = 2 ^ 53 then (2 ^ 52, exponent + 1) else (mantissa, exponent)

/-- The double nearest to plus or minus a number that is not negative. -/
def ofMagnitude (negative : Bool) (value : Rat) : Binary64 :=
  if value = 0 then zero negative
  else if greatestExponent < (place value).2 then .infinite negative
  else .finite negative (place value).1 (place value).2

/-- Rounding a fraction depends on its value only. -/
theorem ofFraction_eq (negative : Bool) (numerator : Nat) {denominator : Nat}
    (positive : 0 < denominator) :
    ofFraction negative numerator denominator =
      ofMagnitude negative (numerator / denominator : Rat) := by
  have bottom : (denominator : Rat) ≠ 0 := by exact_mod_cast positive.ne'
  have power (count : Nat) : Nat.pow 2 count = 2 ^ count := rfl
  unfold ofFraction ofMagnitude place
  rcases Nat.eq_zero_or_pos numerator with rfl | nonzero
  · simp
  · have value : (numerator / denominator : Rat) ≠ 0 :=
      div_ne_zero (by exact_mod_cast nonzero.ne') bottom
    rw [if_neg nonzero.ne', if_neg value, leadingExponent_eq nonzero positive]
    obtain ⟨base, fraction⟩ := shiftedFraction_eq numerator positive
      (max (Int.log 2 (numerator / denominator : Rat) - 52) leastExponent)
    simp only [roundQuotient_eq base, fraction, power]
    split <;> rfl

/-- A double in the one form that it has. -/
def Canonical : Binary64 → Prop
  | .finite _ mantissa exponent =>
      mantissa < 2 ^ 53 ∧ leastExponent ≤ exponent ∧ exponent ≤ greatestExponent ∧
        (2 ^ 52 ≤ mantissa ∨ exponent = leastExponent)
  | _ => True

theorem canonical_zero (negative : Bool) : (zero negative).Canonical := by
  refine ⟨by decide, le_rfl, by decide, .inr rfl⟩

/-- Only the exponent of a rounded number may be too great. -/
theorem place_bounds {value : Rat} (positive : 0 < value) :
    (place value).1 < 2 ^ 53 ∧ leastExponent ≤ (place value).2 ∧
      (2 ^ 52 ≤ (place value).1 ∨ (place value).2 = leastExponent) := by
  have lower : (2 : Rat) ^ Int.log 2 value ≤ value := by
    exact_mod_cast Int.zpow_log_le_self (b := 2) (by decide) positive
  have upper : value < (2 : Rat) ^ (Int.log 2 value + 1) := by
    exact_mod_cast Int.lt_zpow_succ_log_self (b := 2) (by decide) value
  unfold place
  generalize Int.log 2 value = leading at lower upper
  generalize taken : max (leading - 52) leastExponent = exponent
  have power : (0 : Rat) < 2 ^ exponent := zpow_pos (by norm_num) exponent
  have most : nearestNatural (value / 2 ^ exponent) ≤ 2 ^ 53 := by
    apply nearestNatural_le
    rw [div_le_iff₀ power]
    calc value ≤ 2 ^ (leading + 1) := upper.le
      _ ≤ 2 ^ (53 + exponent) := zpow_le_zpow_right₀ (by norm_num) (by omega)
      _ = ((2 ^ 53 : Nat) : Rat) * 2 ^ exponent := by
        rw [zpow_add₀ (by norm_num)]
        norm_num
  have least : exponent = leastExponent ∨ 2 ^ 52 ≤ nearestNatural (value / 2 ^ exponent) := by
    by_cases subnormal : leading - 52 ≤ leastExponent
    · exact .inl (by omega)
    · right
      apply le_nearestNatural
      rw [le_div_iff₀ power]
      calc ((2 ^ 52 : Nat) : Rat) * 2 ^ exponent = 2 ^ (52 + exponent) := by
            rw [zpow_add₀ (by norm_num)]
            norm_num
        _ = 2 ^ leading := by
          congr 1
          omega
        _ ≤ value := lower
  dsimp only
  split
  · exact ⟨by norm_num, by omega, .inl le_rfl⟩
  · exact ⟨by omega, by omega, least.symm⟩

theorem canonical_ofMagnitude (negative : Bool) {value : Rat} (nonnegative : 0 ≤ value) :
    (ofMagnitude negative value).Canonical := by
  unfold ofMagnitude
  split
  · exact canonical_zero negative
  rename_i nonzero
  obtain ⟨small, low, full⟩ := place_bounds (lt_of_le_of_ne nonnegative (Ne.symm nonzero))
  split
  · trivial
  · rename_i high
    exact ⟨small, low, le_of_not_gt high, full⟩

/-- The sign of a result is that of the number, whatever its magnitude. -/
theorem ofMagnitude_sign {value : Rat} {mantissa : Nat} {exponent : Int}
    (rounds : ofMagnitude false value = .finite false mantissa exponent) (negative : Bool) :
    ofMagnitude negative value = .finite negative mantissa exponent := by
  unfold ofMagnitude at rounds ⊢
  by_cases none : value = 0
  · rw [if_pos none] at rounds ⊢
    simp only [zero, finite.injEq] at rounds ⊢
    exact ⟨trivial, rounds.2⟩
  · rw [if_neg none] at rounds ⊢
    by_cases great : greatestExponent < (place value).2
    · simp [if_pos great] at rounds
    · rw [if_neg great] at rounds ⊢
      simp only [finite.injEq] at rounds ⊢
      exact ⟨trivial, rounds.2⟩

/-- The leading exponent of a number that is measured in some unit. -/
theorem log_mul_zpow {units : Rat} {count : Nat} (exponent : Int) (below : 2 ^ count ≤ units)
    (above : units < 2 ^ (count + 1)) : Int.log 2 (units * 2 ^ exponent) = count + exponent := by
  have power : (0 : Rat) < 2 ^ exponent := zpow_pos (by norm_num) exponent
  have positive : 0 < units := lt_of_lt_of_le (by positivity) below
  apply log_eq (mul_pos positive power)
  · rw [zpow_add₀ (by norm_num), zpow_natCast]
    exact mul_le_mul_of_nonneg_right below power.le
  · have next : (count : Int) + exponent + 1 = ((count + 1 : Nat) : Int) + exponent := by
      push_cast
      ring
    rw [next, zpow_add₀ (by norm_num), zpow_natCast]
    exact mul_lt_mul_of_pos_right above power

/-- Where the last place of a number is that is close to a double: where that of the double
is, or one place lower if the mantissa of the double is a power of two. -/
theorem lastPlace_of_near {mantissa : Nat} {exponent : Int} {units : Rat}
    (low : leastExponent ≤ exponent) (full : 2 ^ 52 ≤ mantissa ∨ exponent = leastExponent)
    (positive : 0 < units) (upper : units < 2 ^ 53) (half : |units - mantissa| < 1 / 2) :
    max (Int.log 2 (units * 2 ^ exponent) - 52) leastExponent = exponent ∨
      (max (Int.log 2 (units * 2 ^ exponent) - 52) leastExponent = exponent - 1 ∧
        mantissa = 2 ^ 52) := by
  have power : (0 : Rat) < 2 ^ exponent := zpow_pos (by norm_num) exponent
  obtain ⟨above, below⟩ := abs_lt.mp half
  by_cases large : (2 : Rat) ^ 52 ≤ units
  · left
    have leading := log_mul_zpow exponent large upper
    push_cast at leading
    omega
  · have small : units < 2 ^ 52 := lt_of_not_ge large
    by_cases least : exponent = leastExponent
    · left
      have leading : Int.log 2 (units * 2 ^ exponent) < 52 + exponent := by
        apply (Int.lt_zpow_iff_log_lt (b := 2) (by decide) (mul_pos positive power)).mp
        rw [Nat.cast_ofNat, zpow_add₀ (by norm_num)]
        exact mul_lt_mul_of_pos_right (by exact_mod_cast small) power
      omega
    · right
      have reaches : 2 ^ 52 ≤ mantissa := full.resolve_right least
      have mantissaIs : mantissa = 2 ^ 52 := by
        have less : ((mantissa : Nat) : Rat) < ((2 ^ 52 + 1 : Nat) : Rat) := by
          push_cast
          linarith
        have fewer : mantissa < 2 ^ 52 + 1 := by exact_mod_cast less
        omega
      rw [mantissaIs] at above
      push_cast at above
      have leading := @log_mul_zpow units 51 exponent (by linarith) small
      push_cast at leading
      exact ⟨by omega, mantissaIs⟩

/-- A number close to a double is rounded to it. -/
theorem ofMagnitude_of_near (negative : Bool) {mantissa : Nat} {exponent : Int}
    (canonical : (Binary64.finite negative mantissa exponent).Canonical) (nonzero : mantissa ≠ 0)
    {value : Rat} (near : |value - mantissa * 2 ^ exponent| < mantissa * 2 ^ exponent / 2 ^ 54) :
    ofMagnitude negative value = .finite negative mantissa exponent := by
  obtain ⟨small, low, high, full⟩ := canonical
  have power : (0 : Rat) < 2 ^ exponent := zpow_pos (by norm_num) exponent
  have one : (1 : Rat) ≤ mantissa := by exact_mod_cast Nat.one_le_iff_ne_zero.mpr nonzero
  have few : (mantissa : Rat) ≤ 2 ^ 53 - 1 := by
    have cast : ((mantissa + 1 : Nat) : Rat) ≤ ((2 ^ 53 : Nat) : Rat) := by exact_mod_cast small
    push_cast at cast
    linarith
  -- Everything is measured in units of the last place of the double.
  obtain ⟨units, rfl⟩ : ∃ units : Rat, value = units * 2 ^ exponent :=
    ⟨value / 2 ^ exponent, (div_mul_cancel₀ _ power.ne').symm⟩
  have close : |units - mantissa| < mantissa / 2 ^ 54 := by
    rw [← sub_mul, abs_mul, abs_of_pos power, mul_div_right_comm] at near
    exact lt_of_mul_lt_mul_right near power.le
  have half : |units - mantissa| < 1 / 2 := by
    apply close.trans
    norm_num
    linarith
  obtain ⟨above, below⟩ := abs_lt.mp close
  have positive : 0 < units := by linarith
  have placed : place (units * 2 ^ exponent) = (mantissa, exponent) := by
    unfold place
    rcases lastPlace_of_near low full positive (by linarith) half with same | ⟨lower, rfl⟩
    · simp only [same, mul_div_cancel_right₀ _ power.ne', nearestNatural_of_near half]
      rw [if_neg small.ne]
    · have doubled : units * 2 ^ exponent / 2 ^ (exponent - 1) = 2 * units := by
        rw [zpow_sub_one₀ (by norm_num), div_eq_iff (by positivity)]
        ring
      have nearest : nearestNatural (2 * units) = 2 ^ 53 := by
        apply nearestNatural_of_near
        have scaled : 2 * units - ((2 ^ 53 : Nat) : Rat) = 2 * (units - ((2 ^ 52 : Nat) : Rat)) := by
          push_cast
          ring
        rw [scaled, abs_mul, abs_of_pos (by norm_num : (0 : Rat) < 2)]
        push_cast at close ⊢
        linarith
      simp only [lower, doubled, nearest, if_true, sub_add_cancel]
  rw [ofMagnitude, if_neg (mul_pos positive power).ne', placed, if_neg (by omega)]

end Binary64

end ContractRollout
