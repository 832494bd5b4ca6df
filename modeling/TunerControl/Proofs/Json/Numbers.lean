import TunerControl.Json.Grammar
import TunerControl.Json.Printer
import TunerControl.Proofs.Decimal.Digits

/-! Numbers: a literal is read as the number that it is one of, and ends where no digit, point or mark
of an exponent follows. -/

namespace TunerControl.Json

open Decimal

/-- What follows cannot make a token longer: a blank, a separator, a closing bracket or nothing. -/
def Ends (rest : List Char) : Prop :=
  ∀ c ∈ rest.head?, isBlank c = true ∨ c = ',' ∨ c = ']' ∨ c = '}'

/-- Nothing follows at the end of a text. -/
theorem Ends.nil : Ends [] := by
  -- There is no first character to speak of.
  simp [Ends]

/-- Blanks in front of what ends a token end it as well. -/
theorem Ends.blank {b : List Char} (blank : IsBlank b) {rest : List Char} (ends : Ends rest) :
    Ends (b ++ rest) := by
  -- The first character is a blank, unless there are no blanks.
  cases b with
  | nil => exact ends
  | cons c b =>
    intro head is
    obtain rfl : c = head := Option.some.inj is
    exact Or.inl (blank c List.mem_cons_self)

/-- A separator ends a token. -/
theorem Ends.separator (rest : List Char) : Ends (',' :: rest) := by
  -- It is one of the characters that do.
  simp [Ends]

/-- A closing bracket ends a token. -/
theorem Ends.bracket (rest : List Char) : Ends (']' :: rest) := by
  -- It is one of the characters that do.
  simp [Ends]

/-- A closing brace ends a token. -/
theorem Ends.brace (rest : List Char) : Ends ('}' :: rest) := by
  -- It is one of the characters that do.
  simp [Ends]

/-- No character of a number follows. -/
theorem Ends.apart {c : Char} {rest : List Char} (ends : Ends (c :: rest)) :
    digitOf? c = none ∧ c ≠ '.' ∧ c ≠ 'e' ∧ c ≠ 'E' := by
  -- Of the characters that end a token, none is part of a number.
  have cases : ((c = ' ' ∨ c = '\t') ∨ c = '\n') ∨ c = '\r' ∨ c = ',' ∨ c = ']' ∨ c = '}' := by
    simpa [isBlank, or_assoc] using ends c rfl
  rcases cases with ((rfl | rfl) | rfl) | rfl | rfl | rfl | rfl <;> decide

/-- No digit follows what ends a token. -/
theorem Ends.noDigit {rest : List Char} (ends : Ends rest) : NoDigit rest := by
  -- The first character, if there is one, is no character of a number.
  cases rest with
  | nil => simp [NoDigit]
  | cons c rest =>
    intro head is
    obtain rfl : c = head := Option.some.inj is
    exact ends.apart.1

/-- The whole part of a number is read back. -/
theorem whole?_natChars (n : Nat) {rest : List Char} (ends : NoDigit rest) :
    whole? (natChars n ++ rest) = some (n, rest) := by
  -- The digits end where none follows, and are those of the number.
  obtain ⟨d, ds, split⟩ := List.exists_cons_of_ne_nil (digits_ne_nil n)
  have value : spelled 0 (d :: ds) = n := split ▸ spelled_digits n
  rw [whole?, natChars, leadingDigits_append _ ends, split]
  by_cases leading : d = zeroDigit
  · -- Only zero itself begins with a zero.
    subst leading
    obtain rfl := eq_zero_of_digits split
    have single : digits 0 = [zeroDigit] := by rw [digits]; rfl
    obtain rfl : ds = [] := by simpa [single] using split.symm
    simp
  · simp [leading, value]

/-- Neither a digit nor a point is in front. -/
structure NoFraction (s : List Char) : Prop where
  digit : NoDigit s
  point : '.' ∉ s.head?

/-- The fraction of a number is read back. -/
theorem fraction?_append (ds : List (Fin 10)) {rest : List Char} (ends : NoFraction rest) :
    fraction? ((if ds = [] then [] else '.' :: ds.map digitChar) ++ rest) = some (ds, rest) := by
  -- Without digits there is no point either, and with digits they follow the point.
  cases ds with
  | nil =>
    rw [if_pos rfl, List.nil_append, fraction?.eq_def]
    split
    · exact absurd rfl ends.point
    · rfl
  | cons d ds =>
    rw [if_neg (by simp), List.cons_append, fraction?, leadingDigits_append _ ends.digit]

/-- An exponent is read back. -/
theorem exponent?_of_isExponent {e : Option Int} {s : List Char} (written : IsExponent e s)
    {rest : List Char} (ends : Ends rest) : exponent? (s ++ rest) = some (e, rest) := by
  -- A number has no exponent, or a mark, a sign and some digits.
  cases e with
  | none =>
    obtain rfl : s = [] := written
    cases rest with
    | nil => rfl
    | cons c rest => simp [exponent?, ends.apart]
  | some e =>
    obtain ⟨mark, sign, ds, marks, some, rfl, value⟩ := written
    have read := leadingDigits_append ds ends.noDigit
    obtain ⟨d, ds, rfl⟩ := List.exists_cons_of_ne_nil some
    rcases value with ⟨rfl | rfl, rfl⟩ | ⟨rfl, rfl⟩
    · -- Without a sign the digits come first, and none of them is one.
      obtain ⟨minus, plus⟩ := digitChar_ne d
      simp only [List.map_cons, List.cons_append] at read
      simp [exponent?, marks, exponentSign, minus, plus, read]
    · -- A plus leaves the exponent as it is.
      simp only [List.map_cons, List.cons_append] at read
      simp [exponent?, marks, exponentSign, read]
    · -- A minus is taken into the exponent.
      simp only [List.map_cons, List.cons_append] at read
      simp [exponent?, marks, exponentSign, read]

/-- What follows the digits of a number is no part of them. -/
theorem noFraction_of_isExponent {e : Option Int} {s : List Char} (written : IsExponent e s)
    {rest : List Char} (ends : Ends rest) : NoFraction (s ++ rest) := by
  -- An exponent begins with its mark; without one, the token ends here.
  cases e with
  | none =>
    obtain rfl : s = [] := written
    refine ⟨ends.noDigit, fun is => ?_⟩
    cases rest with
    | nil => simp at is
    | cons c rest => exact ends.apart.2.1 (Option.some.inj is)
  | some e =>
    obtain ⟨mark, sign, ds, marks, -, rfl, -⟩ := written
    rcases marks with rfl | rfl
    · exact ⟨by simp [NoDigit, digitOf?], by simp⟩
    · exact ⟨by simp [NoDigit, digitOf?], by simp⟩

/-- A literal of a number is read as the number. -/
theorem number?_of_isNumber {n : Number} {s : List Char} (literal : IsNumber n s)
    {rest : List Char} (ends : Ends rest) : number? (s ++ rest) = some (n, rest) := by
  -- The parts are read one after another, each up to where the next one begins.
  obtain ⟨negative, whole, fraction, e⟩ := n
  obtain ⟨exponent, written, rfl⟩ := literal
  have apart := noFraction_of_isExponent written ends
  have unsigned : unsignedNumber? negative (natChars whole
      ++ ((if fraction = [] then [] else '.' :: fraction.map digitChar) ++ (exponent ++ rest))) =
        some (⟨negative, whole, fraction, e⟩, rest) := by
    -- What follows the whole part begins with a point or ends the digits.
    have stops : NoDigit ((if fraction = [] then [] else '.' :: fraction.map digitChar)
        ++ (exponent ++ rest)) := by
      split
      · exact apart.digit
      · simp [NoDigit, digitOf?]
    simp [unsignedNumber?, whole?_natChars whole stops, fraction?_append fraction apart,
      exponent?_of_isExponent written ends]
  cases negative with
  | true => simpa [Number.decimalChars, number?] using unsigned
  | false =>
    -- The first character is a digit and no sign.
    obtain ⟨d, ds, split⟩ := List.exists_cons_of_ne_nil (digits_ne_nil whole)
    have unsign := (digitChar_ne d).1
    simp only [natChars, split, List.map_cons, List.cons_append] at unsigned
    simpa [Number.decimalChars, natChars, split, number?, unsign] using unsigned

end TunerControl.Json
