import Mathlib.Algebra.Group.Nat.Defs
import Mathlib.Data.Nat.Init
import TunerControl.Decimal.Digits

/-! The digits of a number as they are written and read: they are taken as long as there are any, and
zeros in front of them add nothing. -/

namespace TunerControl.Decimal

/-- Every number has a digit. -/
theorem digits_ne_nil (n : Nat) : digits n ≠ [] := by
  -- A small number is a digit, and any other ends with one.
  rw [digits]
  split <;> simp

/-- Only zero has a leading zero. -/
theorem eq_zero_of_digits {n : Nat} {ds : List (Fin 10)} (leading : digits n = zeroDigit :: ds) :
    n = 0 := by
  -- The first digit is that of the number without its last digit.
  induction n using Nat.strongRecOn generalizing ds with
  | _ n ih =>
    rw [digits] at leading
    split at leading
    · have first := congrArg Fin.val (List.cons.inj leading).1
      simp only [Fin.ofNat, zeroDigit] at first
      omega
    · obtain ⟨d, rest, split⟩ := List.exists_cons_of_ne_nil (digits_ne_nil (n / 10))
      rw [split, List.cons_append] at leading
      rw [(List.cons.inj leading).1] at split
      have none := ih (n / 10) (by omega) split
      omega

/-- A number has no more digits than the power of ten that exceeds it has zeros. -/
theorem length_digits_le {width n : Nat} (wide : 0 < width) (fits : n < 10 ^ width) :
    (digits n).length ≤ width := by
  -- Without its last digit a number is below the power before.
  induction width, wide using Nat.le_induction generalizing n with
  | base =>
    rw [digits, if_pos (by omega)]
    simp
  | succ width wide ih =>
    rw [Nat.pow_succ] at fits
    have shorter := ih (n := n / 10) (by omega)
    rw [digits]
    split
    · simp
    · rw [List.length_append, List.length_singleton]
      omega

/-- Zeros in front do not change the number that is spelled. -/
theorem spelled_zeros (count : Nat) (ds : List (Fin 10)) :
    spelled 0 (List.replicate count zeroDigit ++ ds) = spelled 0 ds := by
  -- Reading a zero first leaves the number read so far at zero.
  induction count with
  | zero => rfl
  | succ count ih =>
    rw [← ih]
    rfl

/-- No digit is in front. -/
def NoDigit (s : List Char) : Prop :=
  ∀ c ∈ s.head?, digitOf? c = none

/-- Digits are taken as long as there are any. -/
theorem leadingDigits_append (ds : List (Fin 10)) {rest : List Char} (ends : NoDigit rest) :
    leadingDigits (ds.map digitChar ++ rest) = (ds, rest) := by
  -- The induction is on the digits; where they end, what follows decides.
  induction ds with
  | nil =>
    cases rest with
    | nil => rfl
    | cons c rest => simp [leadingDigits, ends c rfl]
  | cons d ds ih => simp [leadingDigits, digitOf?_digitChar, ih]

/-- A digit is a digit, and no other character of a number. -/
theorem digitChar_ne (d : Fin 10) : digitChar d ≠ '-' ∧ digitChar d ≠ '+' := by
  -- There are ten digits to look at.
  revert d
  decide

/-- What fills up a number on the left is its own digit zero. -/
theorem paddedChars_eq (width n : Nat) :
    paddedChars width n =
      (List.replicate (width - (digits n).length) zeroDigit ++ digits n).map digitChar := by
  -- The characters are those of the digits, and the filling is made of the digit zero.
  rw [paddedChars, natChars, List.map_append, List.map_replicate]
  rfl

end TunerControl.Decimal
