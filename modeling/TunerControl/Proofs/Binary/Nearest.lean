import Mathlib.Data.Int.Log
import Mathlib.Data.Rat.Floor
import Mathlib.Tactic.FieldSimp
import Mathlib.Tactic.Linarith
import TunerControl.Binary.Value

/-! Rounding to the nearest value: how far off it is, and that it keeps the order. -/

namespace TunerControl.Binary

/-- A power of two as a quotient of natural numbers. -/
theorem two_zpow (e : Int) :
    (2 : ℚ) ^ e = (Nat.pow 2 e.toNat : Nat) / (Nat.pow 2 (-e).toNat : Nat) := by
  -- One of the two powers is one.
  obtain ⟨n, rfl | rfl⟩ := e.eq_nat_or_neg
  · simp
  · simp

/-- A natural power of two as one with an integer exponent. -/
theorem cast_pow_two (n : Nat) : ((Nat.pow 2 n : Nat) : ℚ) = 2 ^ (n : Int) := by
  -- The exponent is a natural number in both.
  rw [zpow_natCast]
  norm_cast

/-- A power of two is positive. -/
theorem pow_two_pos (n : Nat) : (0 : ℚ) < (Nat.pow 2 n : Nat) :=
  Nat.cast_pos.mpr (Nat.two_pow_pos n)

/-- A dyadic number as a quotient of natural numbers. -/
theorem Dyadic.value_eq_div (x : Dyadic) : x.value = (x.numerator : ℚ) / x.denominator := by
  -- The power of two is in the numerator or in the denominator, and one in the other.
  rw [value, two_zpow, numerator, denominator, Nat.cast_mul, mul_div_assoc]

section Integers

variable {n d : Nat}

/-- Rounding to a natural number goes down or up, to whichever is not farther away. -/
theorem nearestNat_cases (n d : Nat) :
    nearestNat n d = n / d ∧ 2 * (n % d) ≤ d ∨ nearestNat n d = n / d + 1 ∧ d ≤ 2 * (n % d) := by
  simp only [nearestNat]
  -- A tie goes either way, and is as far from both.
  split
  · exact .inl ⟨rfl, by omega⟩
  · split
    · exact .inr ⟨rfl, by omega⟩
    · split
      · exact .inl ⟨rfl, by omega⟩
      · exact .inr ⟨rfl, by omega⟩

/-- Rounding to a natural number is off by one half at most. -/
theorem nearestNat_error (pos : 0 < d) : |(nearestNat n d : ℚ) - n / d| ≤ 1 / 2 := by
  -- The quotient is split into its whole part and a rest, and only the rest is rounded.
  have positive : (0 : ℚ) < d := Nat.cast_pos.mpr pos
  have division : (d : ℚ) * (n / d : Nat) + (n % d : Nat) = n := by
    exact_mod_cast Nat.div_add_mod n d
  have quotient : (n : ℚ) / d = (n / d : Nat) + ((n % d : Nat) : ℚ) / d := by
    rw [← division]
    field_simp
  have nonneg : 0 ≤ ((n % d : Nat) : ℚ) / d := div_nonneg (Nat.cast_nonneg _) positive.le
  have inside : ((n % d : Nat) : ℚ) / d ≤ 1 := by
    rw [div_le_iff₀ positive, one_mul]
    exact_mod_cast (Nat.mod_lt n pos).le
  rw [quotient, abs_le]
  -- What is cut off is at most one half, and so is what is added.
  rcases nearestNat_cases n d with ⟨down, close⟩ | ⟨up, close⟩
  · have half : ((n % d : Nat) : ℚ) / d ≤ 1 / 2 := by
      have : (2 : ℚ) * (n % d : Nat) ≤ d := by exact_mod_cast close
      rw [div_le_iff₀ positive]
      linarith
    rw [down]
    constructor <;> linarith
  · have half : 1 / 2 ≤ ((n % d : Nat) : ℚ) / d := by
      have : (d : ℚ) ≤ 2 * (n % d : Nat) := by exact_mod_cast close
      rw [le_div_iff₀ positive]
      linarith
    rw [up]
    push_cast
    constructor <;> linarith

/-- Rounding to a natural number keeps the order of quotients. -/
theorem nearestNat_mono {m c : Nat} (pos : 0 < d) (pos' : 0 < c) (le : n * c ≤ m * d) :
    nearestNat n d ≤ nearestNat m c := by
  -- The whole parts are compared first, and the rests only if these are the same.
  have below : n / d ≤ m / c := by
    rw [Nat.le_div_iff_mul_le pos']
    refine Nat.le_of_mul_le_mul_right ?_ pos
    calc n / d * c * d
      _ = n / d * d * c := Nat.mul_right_comm _ _ _
      _ ≤ n * c := Nat.mul_le_mul_right c (Nat.div_mul_le_self n d)
      _ ≤ m * d := le
  rcases Nat.lt_or_eq_of_le below with apart | together
  · have lower := nearestNat_cases n d
    have upper := nearestNat_cases m c
    omega
  · -- The same number is below both, so that the rests decide.
    have rests : n % d * c ≤ m % c * d := by
      have first := Nat.div_add_mod n d
      have second := Nat.div_add_mod m c
      rw [← together] at second
      rw [← first, ← second, Nat.add_mul, Nat.add_mul, Nat.mul_right_comm d, Nat.mul_right_comm c,
        Nat.mul_comm d c] at le
      omega
    have passes : d < 2 * (n % d) → c < 2 * (m % c) := by
      intro more
      refine Nat.lt_of_mul_lt_mul_right (a := d) ?_
      calc c * d
        _ = d * c := Nat.mul_comm _ _
        _ < 2 * (n % d) * c := Nat.mul_lt_mul_of_pos_right more pos'
        _ ≤ 2 * (m % c) * d := by rw [Nat.mul_assoc, Nat.mul_assoc]; omega
    have reaches : d ≤ 2 * (n % d) → c ≤ 2 * (m % c) := by
      intro more
      refine Nat.le_of_mul_le_mul_right ?_ pos
      calc c * d
        _ = d * c := Nat.mul_comm _ _
        _ ≤ 2 * (n % d) * c := Nat.mul_le_mul_right c more
        _ ≤ 2 * (m % c) * d := by rw [Nat.mul_assoc, Nat.mul_assoc]; omega
    simp only [nearestNat, together]
    split_ifs <;> omega

/-- A natural number that is not greater than a quotient is not greater than the nearest one. -/
theorem le_nearestNat (pos : 0 < d) {k : Nat} (le : (k : ℚ) ≤ n / d) : k ≤ nearestNat n d := by
  -- The whole part is already as great.
  rw [le_div_iff₀ (Nat.cast_pos.mpr pos)] at le
  have below : k ≤ n / d := by
    rw [Nat.le_div_iff_mul_le pos]
    exact_mod_cast le
  have cases := nearestNat_cases n d
  omega

/-- A natural number that is not less than a quotient is not less than the nearest one. -/
theorem nearestNat_le (pos : 0 < d) {k : Nat} (le : (n : ℚ) / d ≤ k) : nearestNat n d ≤ k := by
  -- The number itself is a quotient, which is rounded to what it is.
  have exact_ : nearestNat k 1 = k := by
    have cases := nearestNat_cases k 1
    omega
  rw [div_le_iff₀ (Nat.cast_pos.mpr pos)] at le
  rw [← exact_]
  refine nearestNat_mono pos Nat.one_pos ?_
  rw [Nat.mul_one]
  exact_mod_cast le

end Integers

section Places

variable {bits num den : Nat}

/-- A natural number lies between the powers of two that its length gives. -/
theorem log2_bounds {n : Nat} (pos : 0 < n) :
    (2 : ℚ) ^ (n.log2 : Int) ≤ n ∧ (n : ℚ) < 2 ^ ((n.log2 : Int) + 1) := by
  -- By definition of the length, once the powers are read as rational numbers.
  have low : ((2 ^ n.log2 : Nat) : ℚ) ≤ n := by exact_mod_cast Nat.log2_self_le pos.ne'
  have high : (n : ℚ) < (2 ^ (n.log2 + 1) : Nat) := by exact_mod_cast Nat.lt_log2_self
  push_cast at low high
  exact ⟨by rwa [zpow_natCast], by rwa [← zpow_natCast] at high⟩

/-- The exponent of a quotient of natural numbers is found from their lengths. -/
theorem floorLog2_eq (num_pos : 0 < num) (den_pos : 0 < den) :
    floorLog2 num den = Int.log 2 ((num : ℚ) / den) := by
  have pos : (0 : ℚ) < den := Nat.cast_pos.mpr den_pos
  have quotient : (0 : ℚ) < num / den := div_pos (Nat.cast_pos.mpr num_pos) pos
  obtain ⟨numLow, numHigh⟩ := log2_bounds num_pos
  obtain ⟨denLow, denHigh⟩ := log2_bounds den_pos
  -- The exponent is the difference of the lengths, or one less.
  have low : (2 : ℚ) ^ ((num.log2 : Int) - den.log2 - 1) ≤ num / den := by
    rw [le_div_iff₀ pos]
    calc (2 : ℚ) ^ ((num.log2 : Int) - den.log2 - 1) * den
      _ ≤ 2 ^ ((num.log2 : Int) - den.log2 - 1) * 2 ^ ((den.log2 : Int) + 1) :=
        mul_le_mul_of_nonneg_left denHigh.le (zpow_pos two_pos _).le
      _ = 2 ^ (num.log2 : Int) := by
        rw [← zpow_add₀ two_ne_zero]
        congr 1
        omega
      _ ≤ num := numLow
  have high : (num : ℚ) / den < 2 ^ ((num.log2 : Int) - den.log2 + 1) := by
    rw [div_lt_iff₀ pos]
    calc (num : ℚ)
      _ < 2 ^ ((num.log2 : Int) + 1) := numHigh
      _ = 2 ^ ((num.log2 : Int) - den.log2 + 1) * 2 ^ (den.log2 : Int) := by
        rw [← zpow_add₀ two_ne_zero]
        congr 1
        omega
      _ ≤ 2 ^ ((num.log2 : Int) - den.log2 + 1) * den :=
        mul_le_mul_of_nonneg_left denLow (zpow_pos two_pos _).le
  -- One comparison tells which of the two exponents that are left it is.
  have test : ∀ e : Int, num * Nat.pow 2 (-e).toNat < den * Nat.pow 2 e.toNat ↔
      (num : ℚ) / den < (2 : Nat) ^ e := by
    intro e
    rw [Nat.cast_two, two_zpow, div_lt_div_iff₀ pos (pow_two_pos _), mul_comm den]
    norm_cast
  have least := (Int.zpow_le_iff_le_log one_lt_two quotient).mp low
  have most := (Int.lt_zpow_iff_log_lt one_lt_two quotient).mp high
  have decides := (test ((num.log2 : Int) - den.log2)).trans
    (Int.lt_zpow_iff_log_lt one_lt_two quotient)
  unfold floorLog2
  dsimp only
  split_ifs with less
  · have := decides.mp less
    omega
  · have := mt decides.mpr less
    omega

/-- How many binary places are kept behind the point, less than none for great numbers. -/
def places (bits num den : Nat) : Int :=
  (bits : Int) - 1 - floorLog2 num den

/-- The significand that a quotient is rounded to, before a carry is taken out of it. -/
def rounded (bits num den : Nat) : Nat :=
  nearestNat (num * Nat.pow 2 (places bits num den).toNat)
    (den * Nat.pow 2 (-places bits num den).toNat)

/-- A carry is taken out of the significand into the exponent. -/
theorem nearest_eq (bits den : Nat) (num_pos : 0 < num) : nearest bits num den =
    if rounded bits num den = Nat.pow 2 bits then ⟨Nat.pow 2 (bits - 1), 1 - places bits num den⟩
    else ⟨rounded bits num den, -places bits num den⟩ := by
  -- Rounding looks at zero first, and then at the carry.
  rw [nearest, if_neg num_pos.ne']
  rfl

/-- Zero is rounded to itself. -/
theorem value_nearest_zero (bits den : Nat) : (nearest bits 0 den).value = 0 := by
  simp [nearest, Dyadic.zero, Dyadic.value]

/-- A quotient with its point moved. -/
theorem scaled_eq (num den : Nat) (e : Int) :
    ((num * Nat.pow 2 e.toNat : Nat) : ℚ) / (den * Nat.pow 2 (-e).toNat : Nat) =
      num / den * 2 ^ e := by
  -- The power of two is a quotient of which one side is one.
  rw [two_zpow, Nat.cast_mul, Nat.cast_mul, mul_div_mul_comm]

/-- A quotient lies between the powers of two that its exponent gives. -/
theorem floorLog2_bounds (num_pos : 0 < num) (den_pos : 0 < den) :
    (2 : ℚ) ^ floorLog2 num den ≤ num / den ∧ (num : ℚ) / den < 2 ^ (floorLog2 num den + 1) := by
  -- The exponent is the logarithm, which lies between its powers.
  have positive : (0 : ℚ) < num / den :=
    div_pos (Nat.cast_pos.mpr num_pos) (Nat.cast_pos.mpr den_pos)
  rw [floorLog2_eq num_pos den_pos]
  exact ⟨Int.zpow_log_le_self one_lt_two positive, Int.lt_zpow_succ_log_self one_lt_two _⟩

/-- The quotient with its point moved has as many digits in front of it as bits are kept, so that the
significand has these bits, or is the next power of two. -/
theorem rounded_bounds (bits_pos : 0 < bits) (num_pos : 0 < num) (den_pos : 0 < den) :
    Nat.pow 2 (bits - 1) ≤ rounded bits num den ∧ rounded bits num den ≤ Nat.pow 2 bits := by
  obtain ⟨low, high⟩ := floorLog2_bounds num_pos den_pos
  -- Moving the point moves both bounds of the quotient.
  have scale : (0 : ℚ) < 2 ^ places bits num den := zpow_pos two_pos _
  have den_pos' : 0 < den * Nat.pow 2 (-places bits num den).toNat :=
    Nat.mul_pos den_pos (Nat.two_pow_pos _)
  constructor
  · refine le_nearestNat den_pos' ?_
    rw [scaled_eq, cast_pow_two]
    calc (2 : ℚ) ^ ((bits - 1 : Nat) : Int)
      _ = 2 ^ floorLog2 num den * 2 ^ places bits num den := by
        rw [← zpow_add₀ two_ne_zero]
        congr 1
        unfold places
        omega
      _ ≤ num / den * 2 ^ places bits num den := mul_le_mul_of_nonneg_right low scale.le
  · refine nearestNat_le den_pos' ?_
    rw [scaled_eq, cast_pow_two]
    calc (num : ℚ) / den * 2 ^ places bits num den
      _ ≤ 2 ^ (floorLog2 num den + 1) * 2 ^ places bits num den :=
        mul_le_mul_of_nonneg_right high.le scale.le
      _ = 2 ^ (bits : Int) := by
        rw [← zpow_add₀ two_ne_zero]
        congr 1
        unfold places
        omega

/-- A quotient is rounded to a number with as many bits as are kept. -/
theorem nearest_significand (bits_pos : 0 < bits) (num_pos : 0 < num) (den_pos : 0 < den) :
    Nat.pow 2 (bits - 1) ≤ (nearest bits num den).significand ∧
      (nearest bits num den).significand < Nat.pow 2 bits := by
  obtain ⟨low, high⟩ := rounded_bounds bits_pos num_pos den_pos
  rw [nearest_eq bits den num_pos]
  -- A significand that is not carried is less than the next power of two.
  split_ifs with carry
  · exact ⟨le_rfl, Nat.pow_lt_pow_right Nat.one_lt_two (Nat.sub_lt bits_pos Nat.one_pos)⟩
  · exact ⟨low, lt_of_le_of_ne high carry⟩

/-- The exponent is given by the number of places, up to a carry. -/
theorem nearest_exponent (bits den : Nat) (num_pos : 0 < num) :
    -places bits num den ≤ (nearest bits num den).exponent ∧
      (nearest bits num den).exponent ≤ 1 - places bits num den := by
  -- A carry adds one, and nothing else does.
  rw [nearest_eq bits den num_pos]
  split_ifs with carry
  · dsimp only
    omega
  · dsimp only
    omega

/-- The carry makes no difference to the value. -/
theorem value_nearest (den : Nat) (bits_pos : 0 < bits) (num_pos : 0 < num) :
    (nearest bits num den).value = rounded bits num den * 2 ^ (-places bits num den) := by
  rw [nearest_eq bits den num_pos]
  split_ifs with carry
  · -- Half the significand with one more in the exponent is the same.
    rw [Dyadic.value, carry, cast_pow_two, cast_pow_two, ← zpow_add₀ two_ne_zero,
      ← zpow_add₀ two_ne_zero]
    congr 1
    dsimp only
    omega
  · rfl

/-- A dyadic number is not negative. -/
theorem value_nonneg (x : Dyadic) : 0 ≤ x.value :=
  mul_nonneg (Nat.cast_nonneg _) (zpow_pos two_pos _).le

/-- The rounded number lies between the same powers of two as the quotient. -/
theorem value_nearest_bounds (bits_pos : 0 < bits) (num_pos : 0 < num) (den_pos : 0 < den) :
    (2 : ℚ) ^ floorLog2 num den ≤ (nearest bits num den).value ∧
      (nearest bits num den).value ≤ 2 ^ (floorLog2 num den + 1) := by
  obtain ⟨low, high⟩ := rounded_bounds bits_pos num_pos den_pos
  -- The point is moved back behind the significand.
  have scale : (0 : ℚ) < 2 ^ (-places bits num den) := zpow_pos two_pos _
  have lower : (2 : ℚ) ^ ((bits - 1 : Nat) : Int) ≤ rounded bits num den := by
    rw [← cast_pow_two]
    exact_mod_cast low
  have upper : (rounded bits num den : ℚ) ≤ 2 ^ (bits : Int) := by
    rw [← cast_pow_two]
    exact_mod_cast high
  rw [value_nearest den bits_pos num_pos]
  constructor
  · calc (2 : ℚ) ^ floorLog2 num den
      _ = 2 ^ ((bits - 1 : Nat) : Int) * 2 ^ (-places bits num den) := by
        rw [← zpow_add₀ two_ne_zero]
        congr 1
        unfold places
        omega
      _ ≤ rounded bits num den * 2 ^ (-places bits num den) :=
        mul_le_mul_of_nonneg_right lower scale.le
  · calc (rounded bits num den : ℚ) * 2 ^ (-places bits num den)
      _ ≤ 2 ^ (bits : Int) * 2 ^ (-places bits num den) :=
        mul_le_mul_of_nonneg_right upper scale.le
      _ = 2 ^ (floorLog2 num den + 1) := by
        rw [← zpow_add₀ two_ne_zero]
        congr 1
        unfold places
        omega

/-- Rounding is off by half a unit in the last of the bits that are kept, at most. -/
theorem nearest_error (bits_pos : 0 < bits) (num_pos : 0 < num) (den_pos : 0 < den) :
    |(nearest bits num den).value - num / den| ≤ num / den * 2 ^ (-(bits : Int)) := by
  obtain ⟨low, -⟩ := floorLog2_bounds num_pos den_pos
  -- The significand is off by one half, which is measured by the power of two that it stands for.
  have scale : (0 : ℚ) < 2 ^ (-places bits num den) := zpow_pos two_pos _
  have moved : (num : ℚ) / den =
      num / den * 2 ^ places bits num den * 2 ^ (-places bits num den) := by
    rw [mul_assoc, ← zpow_add₀ two_ne_zero, add_neg_cancel, zpow_zero, mul_one]
  have error : |(rounded bits num den : ℚ) - num / den * 2 ^ places bits num den| ≤ 1 / 2 := by
    rw [← scaled_eq]
    exact nearestNat_error (Nat.mul_pos den_pos (Nat.two_pow_pos _))
  rw [value_nearest den bits_pos num_pos]
  calc |(rounded bits num den : ℚ) * 2 ^ (-places bits num den) - num / den|
    _ = |(rounded bits num den : ℚ) - num / den * 2 ^ places bits num den| *
        2 ^ (-places bits num den) := by
      rw [← abs_of_pos scale, ← abs_mul, abs_of_pos scale, sub_mul, ← moved]
    _ ≤ 1 / 2 * 2 ^ (-places bits num den) := mul_le_mul_of_nonneg_right error scale.le
    _ = 2 ^ floorLog2 num den * 2 ^ (-(bits : Int)) := by
      rw [one_div, ← zpow_neg_one, ← zpow_add₀ two_ne_zero, ← zpow_add₀ two_ne_zero]
      congr 1
      unfold places
      omega
    _ ≤ num / den * 2 ^ (-(bits : Int)) := mul_le_mul_of_nonneg_right low (zpow_pos two_pos _).le

/-- Rounding keeps the order of quotients. -/
theorem nearest_mono {m c : Nat} (bits_pos : 0 < bits) (den_pos : 0 < den) (c_pos : 0 < c)
    (le : (num : ℚ) / den ≤ m / c) :
    (nearest bits num den).value ≤ (nearest bits m c).value := by
  -- Zero comes before all others, and of two positive quotients the exponents are compared first.
  rcases num.eq_zero_or_pos with rfl | num_pos
  · rw [value_nearest_zero]
    exact value_nonneg _
  · have positive : (0 : ℚ) < num / den :=
      div_pos (Nat.cast_pos.mpr num_pos) (Nat.cast_pos.mpr den_pos)
    have m_pos : 0 < m := by
      rcases m.eq_zero_or_pos with rfl | m_pos
      · rw [Nat.cast_zero, zero_div] at le
        exact absurd positive le.not_gt
      · exact m_pos
    have exponents : floorLog2 num den ≤ floorLog2 m c := by
      rw [floorLog2_eq num_pos den_pos, floorLog2_eq m_pos c_pos]
      exact Int.log_mono_right positive le
    rcases exponents.lt_or_eq with apart | together
    · -- A power of two stands between the two numbers.
      calc (nearest bits num den).value
        _ ≤ 2 ^ (floorLog2 num den + 1) := (value_nearest_bounds bits_pos num_pos den_pos).2
        _ ≤ 2 ^ floorLog2 m c := zpow_le_zpow_right₀ one_le_two apart
        _ ≤ (nearest bits m c).value := (value_nearest_bounds bits_pos m_pos c_pos).1
    · -- The same places are kept of both, so that the significands decide.
      have same : places bits num den = places bits m c := by rw [places, places, together]
      have whole := Nat.mul_pos den_pos (Nat.two_pow_pos (-places bits num den).toNat)
      have other := Nat.mul_pos c_pos (Nat.two_pow_pos (-places bits num den).toNat)
      have moved := mul_le_mul_of_nonneg_right le (zpow_pos two_pos (places bits num den)).le
      rw [← scaled_eq, ← scaled_eq,
        div_le_div_iff₀ (Nat.cast_pos.mpr whole) (Nat.cast_pos.mpr other)] at moved
      have significands : rounded bits num den ≤ rounded bits m c := by
        rw [rounded, rounded, ← same]
        exact nearestNat_mono whole other (by exact_mod_cast moved)
      rw [value_nearest den bits_pos num_pos, value_nearest c bits_pos m_pos, ← same]
      exact mul_le_mul_of_nonneg_right (by exact_mod_cast significands) (zpow_pos two_pos _).le

end Places

end TunerControl.Binary
