import TunerControl.Proofs.Binary.Quotient
import TunerControl.Proofs.Event.Rows

/-! The share of bad control blocks: it is formed for every total that fits 32 bits, and then close to the
exact one. A total that does not fit stops the computation. -/

namespace TunerControl.Event

namespace Signal

/-- The control blocks that were counted. A negative count stands for none. -/
def blocks (s : Signal) : Int :=
  max s.tsbkOk.toInt 0 + max s.tsbkErr.toInt 0

/-- The exact share of bad control blocks among all, and zero when there are none. -/
def share (s : Signal) : ℚ :=
  if s.blocks = 0 then 0 else (max s.tsbkErr.toInt 0 : Int) / s.blocks

/-- The total that is formed is the number of blocks. -/
theorem total_eq_blocks (s : Signal) : (countOf s.tsbkOk + countOf s.tsbkErr : Int) = s.blocks := by
  -- Both counts are clamped at zero.
  rw [blocks, countOf_eq_max, countOf_eq_max]

/-- The exact share as a quotient of natural numbers. -/
theorem share_eq_div (s : Signal) :
    s.share = (countOf s.tsbkErr : ℚ) / (countOf s.tsbkOk + countOf s.tsbkErr : Nat) := by
  have total := s.total_eq_blocks
  have bad := countOf_eq_max s.tsbkErr
  unfold share
  split_ifs with none
  · -- A quotient by zero is zero.
    have empty : countOf s.tsbkOk + countOf s.tsbkErr = 0 := by omega
    rw [empty, Nat.cast_zero, div_zero]
  · rw [← total, ← bad]
    push_cast
    rfl

/-- The exact share lies between none and all. -/
theorem share_mem (s : Signal) : 0 ≤ s.share ∧ s.share ≤ 1 := by
  -- A part of natural numbers is not greater than the whole.
  rw [share_eq_div]
  constructor
  · exact div_nonneg (Nat.cast_nonneg _) (Nat.cast_nonneg _)
  · refine div_le_one_of_le₀ ?_ (Nat.cast_nonneg _)
    exact_mod_cast Nat.le_add_left _ _

/-- The exact share of bad blocks lies between zero and one for all counts. As long as the number of
blocks fits a signed 32-bit number, the share that is formed is a number, lies between zero and one as
well, and is off by less than one part in four millions. Only a greater number of blocks stops the
computation. -/
theorem errorRatio_approximates (s : Signal) :
    0 ≤ s.share ∧ s.share ≤ 1 ∧
    (s.blocks ≤ Int32.maxValue.toInt → ∃ r v, s.errorRatio = .ok r ∧ r.value? = some v ∧
      0 ≤ v ∧ v ≤ 1 ∧ |v - s.share| ≤ s.share * 2 ^ (-22 : Int)) ∧
    (Int32.maxValue.toInt < s.blocks → s.errorRatio = .error .addition) := by
  obtain ⟨low, high⟩ := s.share_mem
  have total := s.total_eq_blocks
  have limit : Int32.maxValue.toInt = 2147483647 := rfl
  refine ⟨low, high, ?_, ?_⟩
  · intro fits
    -- What fits is let through, and then there are blocks to divide by, or none.
    unfold errorRatio
    dsimp only
    rw [if_neg (by push_cast; omega)]
    split_ifs with empty
    · -- Without any blocks the share is zero, exactly.
      have none : s.share = 0 := by rw [share_eq_div, empty, Nat.cast_zero, div_zero]
      refine ⟨_, 0, rfl, Binary.Binary32.value?_zero, le_rfl, zero_le_one, ?_⟩
      simp [none]
    · obtain ⟨v, number, nonneg, unit, close⟩ := Binary.value?_ofQuotient
        (Nat.le_add_left (countOf s.tsbkErr) (countOf s.tsbkOk)) (Nat.pos_of_ne_zero empty)
        (by omega)
      refine ⟨_, v, rfl, number, nonneg, unit, ?_⟩
      rw [share_eq_div]
      exact close
  · -- The addition is checked before anything else.
    intro exceeds
    unfold errorRatio
    dsimp only
    rw [if_pos (by push_cast; omega)]

/-- Ten bad blocks of forty make a quarter, exactly. -/
theorem quarter_errorRatio :
    let s : Signal := ⟨30, 10, 0, true, true⟩
    s.blocks = 40 ∧ s.errorRatio = .ok ⟨0x3E800000⟩ ∧
      ∃ v, (Binary.Binary32.mk 0x3E800000).value? = some v ∧ v ≤ 1 ∧
        |v - s.share| ≤ s.share * 2 ^ (-22 : Int) := by
  -- The quotient is computed, and what it is close to is known from the theorem.
  intro s
  have formed : s.errorRatio = .ok ⟨0x3E800000⟩ := by decide
  obtain ⟨r, v, same, number, -, unit, close⟩ := s.errorRatio_approximates.2.2.1 (by decide)
  rw [formed] at same
  cases same
  exact ⟨by decide, formed, v, number, unit, close⟩

/-- With as many good blocks as can be counted, a single bad one stops the computation, although its
share is a fraction of the unit like any other. -/
theorem saturated_errorRatio :
    let s : Signal := ⟨Int32.maxValue, 1, 0, false, false⟩
    s.errorRatio = .error .addition ∧ s.blocks = 2147483648 ∧ s.share = 1 / 2147483648 ∧
      ¬ ∃ r, s.errorRatio = .ok r := by
  -- The sum is the first one that is too large.
  intro s
  have stopped : s.errorRatio = .error .addition := by decide
  have counted : s.blocks = 2147483648 := by decide
  refine ⟨stopped, counted, ?_, ?_⟩
  · have bad : max s.tsbkErr.toInt 0 = 1 := by decide
    rw [share, counted, bad]
    norm_num
  · rintro ⟨r, formed⟩
    rw [stopped] at formed
    cases formed

end Signal

end TunerControl.Event
