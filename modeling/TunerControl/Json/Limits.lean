import TunerControl.Binary.Nearest
import TunerControl.Decimal.Digits
import TunerControl.Json.Value

/-! What a reader that first holds a value in memory can hold: numbers in the range of binary64,
strings with a text, and limited nesting. -/

namespace TunerControl.Json

open Binary Decimal

/-- The greatest significand that is read digit by digit. -/
def Number.maxSignificand : Nat :=
  UInt64.size - 1

/-- Takes digits into a significand while it stays in bounds, and tells how many are left over. -/
def Number.absorb : Nat → List (Fin 10) → Nat × Nat
  | n, [] => (n, 0)
  | n, d :: ds =>
    if maxSignificand < 10 * n + d.val then (n, ds.length + 1) else absorb (10 * n + d.val) ds

/-- The significand and the power of ten that a number's digits and exponent amount to. -/
def Number.scaled (n : Number) : Nat × Int :=
  let (upper, skipped) := absorb 0 (digits n.whole)
  let (significand, ignored) := absorb upper n.fraction
  let taken := n.fraction.length - ignored
  (significand, (skipped : Int) - taken + n.exponent.getD 0)

/-- Whether a number, as its rounded significand times a rounded power of ten, is finite. -/
def Number.inRange (n : Number) : Bool :=
  let (significand, power) := n.scaled
  if significand = 0 || power ≤ 0 then true
  else if 308 < power then false
  else
    -- Both factors are rounded before the product is.
    let product := (nearest 53 significand 1).mulNearest 53 (nearest 53 (Nat.pow 10 power.toNat) 1)
    product.exponent ≤ 971

/-- How deeply a value that is held in memory may be nested. -/
def Value.depthLimit : Nat := 127

namespace Value

mutual

/-- Whether all numbers are in range and all strings and keys have a text. -/
def sound : Value → Bool
  | .number n => n.inRange
  | .string s => s.isSome
  | .array items => soundItems items
  | .object members => soundMembers members
  | _ => true

/-- Whether all items are sound. -/
def soundItems : List Value → Bool
  | [] => true
  | item :: rest => sound item && soundItems rest

/-- Whether all members are sound. -/
def soundMembers : List (Option String × Value) → Bool
  | [] => true
  | (key, value) :: rest => key.isSome && sound value && soundMembers rest

end

/-- Whether a value can be held in memory. -/
def holdable (v : Value) : Bool :=
  v.sound && v.depth ≤ depthLimit

end Value

end TunerControl.Json
