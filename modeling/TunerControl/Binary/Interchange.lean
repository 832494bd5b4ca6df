import TunerControl.Binary.Nearest

/-! The 32-bit and 64-bit binary interchange formats, held as their bit patterns. -/

namespace TunerControl.Binary

/-- A 64-bit binary floating-point number. -/
structure Binary64 where
  bits : UInt64
  deriving DecidableEq, Repr

namespace Binary64

/-- The value of the bit in front of the fraction. -/
def leadingBit : Nat := 0x10000000000000

/-- The sign bit. -/
def negative (x : Binary64) : Bool :=
  0x8000000000000000 ≤ x.bits.toNat

/-- The exponent field. -/
def exponentField (x : Binary64) : Nat :=
  x.bits.toNat / leadingBit % 0x800

/-- The fraction field. -/
def fractionField (x : Binary64) : Nat :=
  x.bits.toNat % leadingBit

/-- Whether the number is neither infinite nor a NaN. -/
def isFinite (x : Binary64) : Bool :=
  x.exponentField ≠ 2047

/-- The magnitude of a finite number. -/
def magnitude (x : Binary64) : Dyadic :=
  if x.exponentField = 0 then ⟨x.fractionField, -1074⟩
  else ⟨x.fractionField + leadingBit, (x.exponentField : Int) - 1075⟩

/-- Whether the next smaller magnitude is only half as far away as the next greater one. -/
def closerBelow (x : Binary64) : Bool :=
  x.fractionField = 0 && 1 < x.exponentField

end Binary64

/-- A 32-bit binary floating-point number. -/
structure Binary32 where
  bits : UInt32
  deriving DecidableEq, Repr

namespace Binary32

/-- The number zero. -/
def zero : Binary32 := ⟨0⟩

/-- The value of the bit in front of the fraction. -/
def leadingBit : Nat := 0x800000

/-- A positive number with a 24-bit significand whose exponent is in the normal range. -/
def ofNormal (x : Dyadic) : Binary32 :=
  ⟨UInt32.ofNat (x.significand - leadingBit + (x.exponent + 150).toNat * leadingBit)⟩

/-- The quotient of two positive natural numbers, each of them rounded to 24 bits first. -/
def ofQuotient (num den : Nat) : Binary32 :=
  if num = 0 then zero
  else ofNormal ((nearest 24 num 1).divNearest 24 (nearest 24 den 1))

end Binary32

end TunerControl.Binary
