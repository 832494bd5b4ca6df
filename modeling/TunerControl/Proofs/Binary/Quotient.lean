import TunerControl.Proofs.Binary.Nearest

/-! The quotient of two natural numbers as a 32-bit binary number: it is a number, it keeps to the unit
interval, and it is close to the exact one. -/

namespace TunerControl.Binary

namespace Binary32

/-- The number zero has the value zero. -/
theorem value?_zero : zero.value? = some 0 := by
  -- The exponent field is empty, and so is the fraction.
  have magnitude : zero.magnitude = ⟨0, -149⟩ := by decide
  rw [value?, if_neg (by decide), if_neg (by decide), magnitude]
  simp [Dyadic.value]

/-- A number in the normal range has the value that it was made from. -/
theorem value?_ofNormal {x : Dyadic} (low : leadingBit ≤ x.significand)
    (high : x.significand < 2 * leadingBit) (least : -149 ≤ x.exponent)
    (most : x.exponent ≤ 104) : (ofNormal x).value? = some x.value := by
  obtain ⟨significand, exponent⟩ := x
  simp only [leadingBit] at low high least most
  -- The fields of the pattern are the significand without its leading bit, and the exponent.
  have pattern : (ofNormal ⟨significand, exponent⟩).bits.toNat =
      significand - 8388608 + (exponent + 150).toNat * 8388608 :=
    UInt32.toNat_ofNat_of_lt' (by simp only [UInt32.size, leadingBit]; omega)
  have field : (ofNormal ⟨significand, exponent⟩).exponentField = (exponent + 150).toNat := by
    rw [exponentField, pattern, leadingBit]
    omega
  have fraction : (ofNormal ⟨significand, exponent⟩).fractionField = significand - 8388608 := by
    rw [fractionField, pattern, leadingBit]
    omega
  have positive : (ofNormal ⟨significand, exponent⟩).negative = false := by
    rw [negative, pattern]
    simp only [decide_eq_false_iff_not]
    omega
  have normal : (ofNormal ⟨significand, exponent⟩).magnitude = ⟨significand, exponent⟩ := by
    rw [magnitude, field, fraction, if_neg (by omega), leadingBit, Dyadic.mk.injEq]
    omega
  rw [value?, field, if_neg (by omega), positive, normal]
  rfl

end Binary32

namespace Dyadic

/-- The denominator of a dyadic number is positive. -/
theorem denominator_pos (x : Dyadic) : 0 < x.denominator :=
  Nat.two_pow_pos _

/-- The numerator of a positive dyadic number is positive. -/
theorem numerator_pos {x : Dyadic} (pos : 0 < x.significand) : 0 < x.numerator :=
  Nat.mul_pos pos (Nat.two_pow_pos _)

/-- The quotient that is rounded in a division is that of the values. -/
theorem quotient_eq (x y : Dyadic) :
    ((x.numerator * y.denominator : Nat) : ℚ) / (x.denominator * y.numerator : Nat) =
      x.value / y.value := by
  -- Dividing by a fraction is multiplying by it upside down.
  rw [value_eq_div, value_eq_div, Nat.cast_mul, Nat.cast_mul, div_div_div_eq]

end Dyadic

/-- A quotient of rounded numbers that is rounded once more is off by four times as much as one of the
roundings, at most. -/
theorem quotient_error {n d x y z u : ℚ} (n_pos : 0 < n) (d_pos : 0 < d) (u_pos : 0 < u)
    (small : u ≤ 1 / 5) (top : |x - n| ≤ n * u) (bottom : |y - d| ≤ d * u)
    (quotient : |z - x / y| ≤ x / y * u) : |z - n / d| ≤ n / d * (4 * u) := by
  -- All bounds are multiples of the exact quotient.
  have share : 0 < n / d := div_pos n_pos d_pos
  have below : 0 < 1 - u := by linarith
  have above : 0 < 1 + u := by linarith
  obtain ⟨top_low, top_high⟩ := abs_le.mp top
  obtain ⟨bottom_low, bottom_high⟩ := abs_le.mp bottom
  obtain ⟨low, high⟩ := abs_le.mp quotient
  have y_low : d * (1 - u) ≤ y := by linarith
  have y_high : y ≤ d * (1 + u) := by linarith
  have y_pos : 0 < y := (mul_pos d_pos below).trans_le y_low
  -- The quotient of the rounded numbers lies between the quotients of their bounds.
  have least : n / d * ((1 - u) / (1 + u)) ≤ x / y := by
    rw [← mul_div_mul_comm]
    exact div_le_div₀ (by nlinarith) (by linarith) y_pos y_high
  have most : x / y ≤ n / d * ((1 + u) / (1 - u)) := by
    rw [← mul_div_mul_comm]
    exact div_le_div₀ (mul_pos n_pos above).le (by linarith) (mul_pos d_pos below) y_low
  have least_factor : 1 - 4 * u ≤ (1 - u) / (1 + u) * (1 - u) := by
    rw [div_mul_eq_mul_div, le_div_iff₀ above]
    nlinarith
  have most_factor : (1 + u) / (1 - u) * (1 + u) ≤ 1 + 4 * u := by
    rw [div_mul_eq_mul_div, div_le_iff₀ below]
    nlinarith
  rw [abs_le]
  constructor
  · have : n / d * (1 - 4 * u) ≤ z := by
      calc n / d * (1 - 4 * u)
        _ ≤ n / d * ((1 - u) / (1 + u) * (1 - u)) :=
          mul_le_mul_of_nonneg_left least_factor share.le
        _ = n / d * ((1 - u) / (1 + u)) * (1 - u) := (mul_assoc _ _ _).symm
        _ ≤ x / y * (1 - u) := mul_le_mul_of_nonneg_right least below.le
        _ ≤ z := by linarith
    linarith
  · have : z ≤ n / d * (1 + 4 * u) := by
      calc z
        _ ≤ x / y * (1 + u) := by linarith
        _ ≤ n / d * ((1 + u) / (1 - u)) * (1 + u) := mul_le_mul_of_nonneg_right most above.le
        _ = n / d * ((1 + u) / (1 - u) * (1 + u)) := mul_assoc _ _ _
        _ ≤ n / d * (1 + 4 * u) := mul_le_mul_of_nonneg_left most_factor share.le
    linarith

section Division

variable {num den : Nat}

/-- Rounding keeps the order of natural numbers. -/
theorem value_nearest_one_le {n m : Nat} (le : n ≤ m) :
    (nearest 24 n 1).value ≤ (nearest 24 m 1).value := by
  -- Natural numbers are quotients by one.
  refine nearest_mono (by decide) Nat.one_pos Nat.one_pos ?_
  rw [Nat.cast_one, div_one, div_one]
  exact_mod_cast le

/-- The number one is rounded to itself. -/
theorem value_nearest_one : (nearest 24 1 1).value = 1 := by
  -- The significand has one bit, and it is moved to the front of 24.
  have exact_ : nearest 24 1 1 = ⟨8388608, -23⟩ := by decide
  rw [exact_, Dyadic.value]
  norm_num

/-- The number that no total reaches is rounded to itself. -/
theorem value_nearest_limit : (nearest 24 2147483648 1).value = 2147483648 := by
  -- As for one, with another exponent.
  have exact_ : nearest 24 2147483648 1 = ⟨8388608, 8⟩ := by decide
  rw [exact_, Dyadic.value]
  norm_num

/-- A natural number is off by half a unit in the last of its bits, at most. -/
theorem nearest_one_error {n : Nat} (pos : 0 < n) :
    |(nearest 24 n 1).value - n| ≤ n * 2 ^ (-24 : Int) := by
  -- A natural number is a quotient by one.
  have error := nearest_error (by decide : 0 < 24) pos Nat.one_pos
  rwa [Nat.cast_one, div_one] at error

/-- The quotient of two rounded numbers, before it is rounded, is neither above one nor tiny. -/
theorem rounded_quotient_bounds (num_pos : 0 < num) (part : num ≤ den) (fits : den < 2147483648) :
    (2 : ℚ) ^ (-31 : Int) ≤ (nearest 24 num 1).value / (nearest 24 den 1).value ∧
      (nearest 24 num 1).value / (nearest 24 den 1).value ≤ 1 := by
  -- What one and the limit are rounded to bounds both of the numbers.
  have one := value_nearest_one_le num_pos
  have limit := value_nearest_one_le fits.le
  have order := value_nearest_one_le part
  rw [value_nearest_one] at one
  rw [value_nearest_limit] at limit
  have pos : 0 < (nearest 24 den 1).value := by linarith
  constructor
  · rw [le_div_iff₀ pos]
    norm_num
    linarith
  · rwa [div_le_iff₀ pos, one_mul]

/-- A quotient that is neither above one nor tiny has a normal number nearest to it. -/
theorem value?_ofNormal_nearest (num_pos : 0 < num) (den_pos : 0 < den)
    (low : (2 : ℚ) ^ (-31 : Int) ≤ num / den) (high : (num : ℚ) / den ≤ 1) :
    (Binary32.ofNormal (nearest 24 num den)).value? = some (nearest 24 num den).value := by
  obtain ⟨least, most⟩ := nearest_significand (by decide : 0 < 24) num_pos den_pos
  obtain ⟨floor, ceil⟩ := nearest_exponent 24 den num_pos
  -- The exponent of the quotient lies between those of the two bounds.
  obtain ⟨bound, limit⟩ := floorLog2_bounds num_pos den_pos
  rw [← zpow_zero (2 : ℚ)] at high
  have upper := (zpow_le_zpow_iff_right₀ one_lt_two).mp (bound.trans high)
  have lower := (zpow_lt_zpow_iff_right₀ one_lt_two).mp (low.trans_lt limit)
  unfold places at floor ceil
  exact Binary32.value?_ofNormal least most (by omega) (by omega)

/-- A share of a total that fits 32 bits with a sign has a quotient that is a number, keeps to the unit
interval, and is off by less than one part in four millions. -/
theorem value?_ofQuotient (part : num ≤ den) (den_pos : 0 < den) (fits : den < 2147483648) :
    ∃ v, (Binary32.ofQuotient num den).value? = some v ∧ 0 ≤ v ∧ v ≤ 1 ∧
      |v - num / den| ≤ num / den * 2 ^ (-22 : Int) := by
  rcases num.eq_zero_or_pos with rfl | num_pos
  · -- Nothing of the total is zero, exactly.
    refine ⟨0, ?_, le_rfl, zero_le_one, by simp⟩
    rw [Binary32.ofQuotient, if_pos rfl]
    exact Binary32.value?_zero
  · obtain ⟨low, high⟩ := rounded_quotient_bounds num_pos part fits
    have num_nearest := nearest_significand (by decide : 0 < 24) num_pos Nat.one_pos
    have den_nearest := nearest_significand (by decide : 0 < 24) den_pos Nat.one_pos
    have above := Nat.mul_pos (Dyadic.numerator_pos ((Nat.two_pow_pos 23).trans_le num_nearest.1))
      (nearest 24 den 1).denominator_pos
    have below := Nat.mul_pos (nearest 24 num 1).denominator_pos
      (Dyadic.numerator_pos ((Nat.two_pow_pos 23).trans_le den_nearest.1))
    rw [← Dyadic.quotient_eq] at low high
    refine ⟨((nearest 24 num 1).divNearest 24 (nearest 24 den 1)).value, ?_, value_nonneg _, ?_, ?_⟩
    · rw [Binary32.ofQuotient, if_neg num_pos.ne']
      exact value?_ofNormal_nearest above below low high
    · -- One is rounded to itself, and what is not greater is not rounded to more.
      rw [← value_nearest_one]
      refine nearest_mono (by decide) below Nat.one_pos ?_
      rwa [Nat.cast_one, div_one]
    · -- Two numbers are rounded, then their quotient is.
      have error := nearest_error (by decide : 0 < 24) above below
      rw [Dyadic.quotient_eq] at error
      have whole := quotient_error (Nat.cast_pos.mpr num_pos) (Nat.cast_pos.mpr den_pos)
        (zpow_pos two_pos (-24)) (by norm_num) (nearest_one_error num_pos)
        (nearest_one_error den_pos) error
      have four : (4 : ℚ) * 2 ^ (-24 : Int) = 2 ^ (-22 : Int) := by norm_num
      rwa [four] at whole

end Division

end TunerControl.Binary
