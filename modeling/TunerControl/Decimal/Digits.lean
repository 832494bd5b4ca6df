/-! Decimal digits: the digits of a number, the number of digits, and their characters. -/

namespace TunerControl.Decimal

/-- The digit zero. -/
def zeroDigit : Fin 10 := ⟨0, by decide⟩

/-- The digits of a number, most significant first, with no leading zero but for zero itself. -/
def digits (n : Nat) : List (Fin 10) :=
  if n < 10 then [Fin.ofNat 10 n] else digits (n / 10) ++ [Fin.ofNat 10 n]
termination_by n

/-- The number that a digit sequence spells, read on from a number already spelled. -/
def spelled (start : Nat) (ds : List (Fin 10)) : Nat :=
  ds.foldl (fun n d => 10 * n + d.val) start

/-- The character of a digit. -/
def digitChar (d : Fin 10) : Char :=
  Char.ofNat ('0'.toNat + d.val)

/-- The digit that a character stands for. -/
def digitOf? (c : Char) : Option (Fin 10) :=
  if '0'.toNat ≤ c.toNat ∧ c.toNat ≤ '9'.toNat then some (Fin.ofNat 10 (c.toNat - '0'.toNat)) else none

/-- The digits at the front of a text, and what follows them. -/
def leadingDigits : List Char → List (Fin 10) × List Char
  | [] => ([], [])
  | c :: rest =>
    match digitOf? c with
    | some d => let (ds, after) := leadingDigits rest; (d :: ds, after)
    | none => ([], c :: rest)

/-- The text of a natural number. -/
def natChars (n : Nat) : List Char :=
  (digits n).map digitChar

/-- The text of a natural number, filled up with zeros on the left. -/
def paddedChars (width n : Nat) : List Char :=
  List.replicate (width - (digits n).length) '0' ++ natChars n

/-- Reading a digit's character gives the digit back. -/
theorem digitOf?_digitChar (d : Fin 10) : digitOf? (digitChar d) = some d := by
  -- Ten digits, each by evaluation.
  revert d
  decide

/-- The digits of a number spell the number. -/
theorem spelled_digits (n : Nat) : spelled 0 (digits n) = n := by
  -- Each step of the recursion takes off the last digit.
  induction n using Nat.strongRecOn with
  | _ n ih =>
    rw [digits]
    split
    · simp [spelled, Fin.ofNat]
      omega
    · simp only [spelled, List.foldl_append, List.foldl_cons, List.foldl_nil]
      have shorter := ih (n / 10) (by omega)
      simp only [spelled] at shorter
      rw [shorter]
      simp [Fin.ofNat]
      omega

end TunerControl.Decimal
