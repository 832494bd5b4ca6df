import Mathlib.Algebra.Order.Field.Rat
import TunerControl.Binary.Interchange

/-! The exact values of dyadic numbers and of 32-bit binary numbers. -/

namespace TunerControl.Binary

/-- The exact value. -/
def Dyadic.value (x : Dyadic) : ℚ :=
  x.significand * (2 : ℚ) ^ x.exponent

namespace Binary32

/-- The sign bit. -/
def negative (x : Binary32) : Bool :=
  0x80000000 ≤ x.bits.toNat

/-- The exponent field. -/
def exponentField (x : Binary32) : Nat :=
  x.bits.toNat / leadingBit % 0x100

/-- The fraction field. -/
def fractionField (x : Binary32) : Nat :=
  x.bits.toNat % leadingBit

/-- The magnitude of a finite number. -/
def magnitude (x : Binary32) : Dyadic :=
  if x.exponentField = 0 then ⟨x.fractionField, -149⟩
  else ⟨x.fractionField + leadingBit, (x.exponentField : Int) - 150⟩

/-- The exact value, unless the number is infinite or a NaN. -/
def value? (x : Binary32) : Option ℚ :=
  if x.exponentField = 255 then none
  else some (if x.negative then -x.magnitude.value else x.magnitude.value)

end Binary32

end TunerControl.Binary
