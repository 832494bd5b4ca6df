/-! Rounding to a fixed number of significant bits: the nearest value, a tie to the even one. -/

namespace TunerControl.Binary

/-- The natural number nearest to a quotient, a tie to the even one. -/
def nearestNat (num den : Nat) : Nat :=
  let below := num / den
  let rest := num % den
  if 2 * rest < den then below
  else if den < 2 * rest then below + 1
  else if below % 2 = 0 then below else below + 1

/-- The number `significand * 2 ^ exponent`. -/
structure Dyadic where
  significand : Nat
  exponent : Int
  deriving DecidableEq, Repr

/-- The dyadic number zero. -/
def Dyadic.zero : Dyadic := ⟨0, 0⟩

/-- The numerator of a dyadic number as a quotient of natural numbers. -/
def Dyadic.numerator (x : Dyadic) : Nat :=
  x.significand * Nat.pow 2 x.exponent.toNat

/-- The denominator of a dyadic number as a quotient of natural numbers. -/
def Dyadic.denominator (x : Dyadic) : Nat :=
  Nat.pow 2 (-x.exponent).toNat

/-- The greatest `e` with `2 ^ e ≤ num / den`. -/
def floorLog2 (num den : Nat) : Int :=
  let guess : Int := (num.log2 : Int) - (den.log2 : Int)
  if num * Nat.pow 2 (-guess).toNat < den * Nat.pow 2 guess.toNat then guess - 1 else guess

/-- The quotient of two natural numbers, rounded to `bits` significant bits. -/
def nearest (bits num den : Nat) : Dyadic :=
  if num = 0 then .zero else
  let top := floorLog2 num den
  let shift : Int := (bits : Int) - 1 - top
  let significand := nearestNat (num * Nat.pow 2 shift.toNat) (den * Nat.pow 2 (-shift).toNat)
  -- Rounding up can reach the next power of two.
  if significand = Nat.pow 2 bits then ⟨Nat.pow 2 (bits - 1), 1 - shift⟩ else ⟨significand, -shift⟩

/-- The product of two dyadic numbers, rounded to `bits` significant bits. -/
def Dyadic.mulNearest (bits : Nat) (x y : Dyadic) : Dyadic :=
  nearest bits (x.numerator * y.numerator) (x.denominator * y.denominator)

/-- The quotient of two dyadic numbers, rounded to `bits` significant bits. -/
def Dyadic.divNearest (bits : Nat) (x y : Dyadic) : Dyadic :=
  nearest bits (x.numerator * y.denominator) (x.denominator * y.numerator)

end TunerControl.Binary
