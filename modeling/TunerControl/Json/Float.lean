import TunerControl.Decimal.Shortest
import TunerControl.Json.Value

/-! Binary floating-point numbers as JSON: shortest digits, plain or with an exponent. -/

namespace TunerControl.Json

open Binary (Binary64)
open Decimal

/-- The exponents of a first digit for which a number is written without an exponent. -/
structure PlainRange where
  least : Int
  most : Int

/-- From a hundred-thousandth up to sixteen whole digits numbers are plain. -/
def plainRange : PlainRange := ⟨-5, 15⟩

/-- The plain form of a decimal number, with at least one digit after the point. -/
def Number.plain (negative : Bool) (ds : List (Fin 10)) (exponent : Int) : Number :=
  let whole := ds.length + exponent
  -- Zeros fill the places between the digits and the point.
  let padded := List.replicate (1 - whole).toNat zeroDigit ++ ds
    ++ List.replicate exponent.toNat zeroDigit
  let split := (max whole 1).toNat
  let rest := padded.drop split
  ⟨negative, spelled 0 (padded.take split), if rest = [] then [zeroDigit] else rest, none⟩

/-- The form of a decimal number with one digit before the point and an exponent. -/
def Number.scientific (negative : Bool) (ds : List (Fin 10)) (exponent : Int) : Number :=
  ⟨negative, spelled 0 (ds.take 1), ds.drop 1, some (ds.length - 1 + exponent)⟩

/-- The number of a finite binary floating-point number. -/
def Number.ofBinary64 (range : PlainRange) (x : Binary64) : Number :=
  if x.magnitude.significand = 0 then ⟨x.negative, 0, [zeroDigit], none⟩
  else
    let s := shortest x
    let ds := digits s.coefficient
    let first := ds.length - 1 + s.exponent
    if range.least ≤ first ∧ first ≤ range.most then .plain x.negative ds s.exponent
    else .scientific x.negative ds s.exponent

/-- The value of a binary floating-point number. What is not finite is null. -/
def Value.binary64 (x : Binary64) : Value :=
  if x.isFinite then .number (.ofBinary64 plainRange x) else .null

end TunerControl.Json
