import TunerControl.Binary.Interchange
import TunerControl.Decimal.Digits

/-! The fewest decimal digits that single out a binary floating-point number. -/

namespace TunerControl.Decimal

open Binary (Binary64)

/-- The number `coefficient * 10 ^ exponent`. -/
structure Scaled where
  coefficient : Nat
  exponent : Int
  deriving DecidableEq, Repr

/-- The decimal numbers that read back as one binary number, all in units of `10 ^ -scale`. -/
structure Window where
  value : Nat
  low : Nat
  high : Nat
  closed : Bool
  scale : Nat

/-- A quarter of the unit in the last place is the unit of a window before it is made decimal. -/
def Window.ofMagnitude (x : Binary.Dyadic) (closerBelow : Bool) : Window :=
  let quarter : Int := x.exponent - 2
  let unit := Nat.pow 2 quarter.toNat * Nat.pow 5 (-quarter).toNat
  { value := 4 * x.significand * unit
    low := (4 * x.significand - if closerBelow then 1 else 2) * unit
    high := (4 * x.significand + 2) * unit
    closed := x.significand % 2 = 0
    scale := (-quarter).toNat }

/-- Whether a decimal number lies in the window, its ends included only when it is closed. -/
def Window.holds (w : Window) (n : Nat) : Bool :=
  if w.closed then w.low ≤ n ∧ n ≤ w.high else w.low < n ∧ n < w.high

/-- The multiple of `step` in the window that is nearest to its value, a tie to the even multiple. -/
def Window.onGrid (w : Window) (step : Nat) : Option Nat :=
  let below := w.value / step
  let belowHeld := w.holds (below * step)
  let aboveHeld := w.holds ((below + 1) * step)
  if belowHeld && aboveHeld then some (Binary.nearestNat w.value step)
  else if belowHeld then some below
  else if aboveHeld then some (below + 1)
  else none

/-- The first grid with a point in the window, from the coarsest of the given ones to the finest. -/
def Window.search (w : Window) : Nat → Scaled
  | 0 => ⟨w.value, -w.scale⟩
  | power + 1 =>
    match w.onGrid (Nat.pow 10 (power + 1)) with
    | some n => ⟨n, (power + 1 : Nat) - w.scale⟩
    | none => w.search power

/-- Moves the trailing zeros of a coefficient into its exponent. -/
def Scaled.stripZeros (x : Scaled) : Scaled :=
  if x.coefficient ≠ 0 ∧ x.coefficient % 10 = 0 then
    stripZeros ⟨x.coefficient / 10, x.exponent + 1⟩
  else x
termination_by x.coefficient

/-- The shortest decimal number that reads back as the given finite number's magnitude. -/
def shortest (x : Binary64) : Scaled :=
  let w := Window.ofMagnitude x.magnitude x.closerBelow
  (w.search (digits w.value).length).stripZeros

end TunerControl.Decimal
