import TunerControl.Proofs.Calendar.Days
import TunerControl.Proofs.Decimal.Digits

/-! The text of a moment is read as the moment that it was written for. -/

namespace TunerControl.Calendar

open Decimal

/-- A mark that is no digit ends the digits in front of it. -/
theorem noDigit_cons {mark : Char} (apart : digitOf? mark = none) (rest : List Char) :
    NoDigit (mark :: rest) := by
  intro c is
  obtain rfl : mark = c := Option.some.inj is
  exact apart

/-- A mark is found where it was put. -/
theorem mark?_cons (mark : Char) (rest : List Char) : mark? mark (mark :: rest) = some rest :=
  if_pos rfl

/-- A number that fits its field is read back from it. -/
theorem field?_paddedChars {width n : Nat} (wide : 0 < width) (fits : n < 10 ^ width)
    {rest : List Char} (ends : NoDigit rest) :
    field? width (paddedChars width n ++ rest) = some (n, rest) := by
  -- The zeros make up for the digits that are missing, and add nothing to the number.
  have room := length_digits_le wide fits
  rw [field?, paddedChars_eq, leadingDigits_append _ ends]
  dsimp only
  rw [if_pos (by rw [List.length_append, List.length_replicate]; omega), spelled_zeros,
    spelled_digits]

/-- A year is read back, with four digits or with a sign. -/
theorem year?_yearChars (year : Nat) {rest : List Char} (ends : NoDigit rest) :
    year? (yearChars year ++ rest) = some (year, rest) := by
  rw [yearChars]
  split
  · -- Four digits are a field of their own.
    have read := field?_paddedChars (by omega : 0 < 4) (by omega : year < 10 ^ 4) ends
    rw [paddedChars_eq] at read ⊢
    -- The first character is a digit and no sign.
    obtain ⟨d, ds, first⟩ := List.exists_cons_of_ne_nil
      (List.append_ne_nil_of_right_ne_nil (List.replicate (4 - (digits year).length) zeroDigit)
        (digits_ne_nil year))
    rw [first, List.map_cons, List.cons_append] at read ⊢
    rw [year?]
    · exact read
    · intro text sign
      exact (digitChar_ne d).2 (List.cons.inj sign).1
  · -- Behind a sign the digits are those of a number with more than four.
    rw [List.cons_append, year?, natChars, leadingDigits_append _ ends]
    dsimp only
    rw [spelled_digits, if_pos (by omega)]

/-- A number below a hundred is read back from two digits with a mark behind them. -/
theorem field?_two {n : Nat} (small : n < 100) {mark : Char} (apart : digitOf? mark = none)
    (rest : List Char) : field? 2 (paddedChars 2 n ++ mark :: rest) = some (n, mark :: rest) :=
  field?_paddedChars Nat.two_pos small (noDigit_cons apart rest)

/-- A date of the calendar is read back. -/
theorem date?_chars {d : Date} (valid : d.isValid = true) {mark : Char}
    (apart : digitOf? mark = none) (rest : List Char) :
    date? (yearChars d.year ++ '-' :: (paddedChars 2 d.month ++ '-' ::
      (paddedChars 2 d.day ++ mark :: rest))) = some (d, mark :: rest) := by
  -- No month and no day of a month needs more than two digits.
  obtain ⟨-, ⟨-, last⟩, -, fits⟩ := d.isValid_iff.mp valid
  have longest := (monthLength_bounds d.year d.month).2
  have dash : digitOf? '-' = none := by decide
  simp only [date?, year?_yearChars d.year (noDigit_cons dash _), mark?_cons,
    field?_two (by omega : d.month < 100) dash, field?_two (by omega : d.day < 100) apart,
    Option.bind_eq_bind, Option.bind_some, Option.pure_def]

/-- What makes a moment one of the calendar and of the day. -/
theorem Moment.isValid_iff (m : Moment) :
    m.isValid = true ↔ m.date.isValid = true ∧ m.hour < 24 ∧ m.minute < 60 ∧ m.second < 60 := by
  -- The four checks one by one.
  simp only [isValid, Bool.and_eq_true, decide_eq_true_eq, and_assoc]

/-- The text of a moment is read as that moment. -/
theorem Moment.ofText?_text {m : Moment} (valid : m.isValid = true) : ofText? m.text = some m := by
  -- Date, hour, minute and second are read one after the other, each up to the mark behind it.
  obtain ⟨date, hour, minute, second⟩ := m.isValid_iff.mp valid
  have colon : digitOf? ':' = none := by decide
  have zone : digitOf? '+' = none := by decide
  have dated := date?_chars date (by decide : digitOf? 'T' = none)
  simp only [text, chars, ofText?, String.toList_ofList, List.append_assoc, List.cons_append,
    List.nil_append, dated, mark?_cons, field?_two (by omega : m.hour < 100) colon,
    field?_two (by omega : m.minute < 100) colon, field?_two (by omega : m.second < 100) zone,
    Option.bind_eq_bind, Option.bind_some, if_true]

end TunerControl.Calendar
