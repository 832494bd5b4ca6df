import TunerControl.Json.Grammar
import TunerControl.Json.Printer

/-! String literals: whatever stands between the quotes is read as what it spells. -/

namespace TunerControl.Json

section Pieces

variable {s : List Char}

/-- A plain character is a piece by itself. -/
theorem pieces?_plain {c : Char} (free : IsPlain c) :
    pieces? (c :: s) = (pieces? s).map fun (ps, after) => (.literal c :: ps, after) := by
  -- It is neither the closing quote nor the beginning of an escape.
  obtain ⟨quote, backslash, printing⟩ := free
  have kept : ¬(c = '\\' ∨ c.toNat < 32) := by simp [backslash, printing]
  rw [pieces?, if_neg kept, Option.map_eq_bind]
  · rfl
  · simpa using quote
  · simp [backslash]
  · simp [backslash]

/-- A short escape is a piece with the character that it stands for. -/
theorem pieces?_short {e c : Char} (escape : shortEscape? e = some c) :
    pieces? ('\\' :: e :: s) = (pieces? s).map fun (ps, after) => (.literal c :: ps, after) := by
  -- The letter of a longer escape is none of a short one.
  have short : e ≠ 'u' := by
    rintro rfl
    simp [shortEscape?] at escape
  rw [pieces?, escape, Option.map_eq_bind]
  · rfl
  · simp [short]

/-- An escape with four digits is a piece with their code. -/
theorem pieces?_code {a b c d : Char} {n : Nat} (digits : hex4? a b c d = some n) :
    pieces? ('\\' :: 'u' :: a :: b :: c :: d :: s) =
      (pieces? s).map fun (ps, after) => (.code n :: ps, after) := by
  -- The letter behind the backslash tells it from the short escapes.
  rw [pieces?.eq_def, Option.map_eq_bind]
  simp only [digits]
  rfl

end Pieces

/-- A code that is no surrogate spells a character by itself. -/
theorem spelling?_code {n : Nat} (ps : List Piece) (high : isHighSurrogate n = false)
    (low : isLowSurrogate n = false) :
    spelling? (.code n :: ps) = (spelling? ps).map (Char.ofNat n :: ·) := by
  -- The other ways to read the first piece are for surrogates.
  rw [spelling?.eq_def]
  split <;> simp_all

/-- A pair of surrogates spells the one character that they encode together. -/
theorem spelling?_pair {n m : Nat} (ps : List Piece) (high : isHighSurrogate n = true)
    (low : isLowSurrogate m = true) :
    spelling? (.code n :: .code m :: ps) = (spelling? ps).map
      (Char.ofNat (0x10000 + (n - 0xd800) * 0x400 + (m - 0xdc00)) :: ·) := by
  -- Both are recognised by their ranges.
  simp [spelling?, high, low]

/-- The first of a pair of surrogates spells nothing without the second one right behind it. -/
theorem of_spelling?_high {n : Nat} {ps : List Piece} {t : List Char}
    (high : isHighSurrogate n = true) (spelled : spelling? (.code n :: ps) = some t) :
    ∃ m rest tail, ps = .code m :: rest ∧ isLowSurrogate m = true ∧ spelling? rest = some tail ∧
      t = Char.ofNat (0x10000 + (n - 0xd800) * 0x400 + (m - 0xdc00)) :: tail := by
  -- Behind a high surrogate, whatever is not a low one leaves nothing to be spelled.
  cases ps with
  | nil => simp [spelling?, high] at spelled
  | cons p rest =>
    cases p with
    | literal c => simp [spelling?, high] at spelled
    | code m =>
      cases low : isLowSurrogate m with
      | false => simp [spelling?, high, low] at spelled
      | true =>
        rw [spelling?_pair rest high low] at spelled
        obtain ⟨tail, read, rfl⟩ := Option.map_eq_some_iff.mp spelled
        exact ⟨m, rest, tail, rfl, low, read, rfl⟩

/-- Nor does the second one by itself. -/
theorem spelling?_low {n : Nat} (ps : List Piece) (high : isHighSurrogate n = false)
    (low : isLowSurrogate n = true) : spelling? (.code n :: ps) = none := by
  -- Only behind a high surrogate does a low one have a meaning.
  cases ps with
  | nil => simp [spelling?, low]
  | cons p rest => cases p <;> simp [spelling?, high, low]

/-- What spells a text is read as pieces that spell the text. -/
theorem Spells.pieces? {s t : List Char} (spells : Spells s t) :
    ∃ ps, (∀ rest, Json.pieces? (s ++ '"' :: rest) = some (ps, rest)) ∧ spelling? ps = some t := by
  induction spells with
  -- Each constructor of the spelling is one piece, and a pair of surrogates two.
  | nil => exact ⟨[], fun _ => rfl, rfl⟩
  | @plain c s t free rest ih =>
    obtain ⟨ps, read, spelled⟩ := ih
    refine ⟨.literal c :: ps, fun rest => ?_, ?_⟩
    · rw [List.cons_append, pieces?_plain free, read rest]
      rfl
    · rw [spelling?, spelled]
      rfl
  | @short e c s t escape rest ih =>
    obtain ⟨ps, read, spelled⟩ := ih
    refine ⟨.literal c :: ps, fun rest => ?_, ?_⟩
    · rw [List.cons_append, List.cons_append, pieces?_short escape, read rest]
      rfl
    · rw [spelling?, spelled]
      rfl
  | @code a b c d n s t digits high low rest ih =>
    obtain ⟨ps, read, spelled⟩ := ih
    refine ⟨.code n :: ps, fun rest => ?_, ?_⟩
    · simp only [List.cons_append]
      rw [pieces?_code digits, read rest]
      rfl
    · rw [spelling?_code ps high low, spelled]
      rfl
  | @pair a b c d a' b' c' d' n m s t first high second low rest ih =>
    -- Two codes in a row are read as two pieces, which pair up.
    obtain ⟨ps, read, spelled⟩ := ih
    refine ⟨.code n :: .code m :: ps, fun rest => ?_, ?_⟩
    · simp only [List.cons_append]
      rw [pieces?_code first, pieces?_code second, read rest]
      rfl
    · rw [spelling?_pair ps high low, spelled]
      rfl

/-- The pieces that a literal is read as spell nothing that the literal does not. -/
theorem IsLiteral.pieces? {s : List Char} (literal : IsLiteral s) :
    ∃ ps, (∀ rest, Json.pieces? (s ++ '"' :: rest) = some (ps, rest)) ∧
      (∀ t, spelling? ps = some t → Spells s t) ∧
      ∀ m rest, ps = .code m :: rest → ∃ a b c d s', s = '\\' :: 'u' :: a :: b :: c :: d :: s' ∧
        hex4? a b c d = some m ∧ ∀ t, spelling? rest = some t → Spells s' t := by
  -- A surrogate pair takes two steps, so that the step before is remembered where it was a code.
  induction literal with
  | nil =>
    refine ⟨[], fun _ => rfl, fun t spelled => ?_, by simp⟩
    obtain rfl : [] = t := Option.some.inj spelled
    exact .nil
  | @plain c s free rest ih =>
    obtain ⟨ps, read, spells, -⟩ := ih
    refine ⟨.literal c :: ps, fun rest => ?_, fun t spelled => ?_, by simp⟩
    · rw [List.cons_append, pieces?_plain free, read rest]
      rfl
    · obtain ⟨t', tail, rfl⟩ := Option.map_eq_some_iff.mp spelled
      exact .plain free (spells t' tail)
  | @short e c s escape rest ih =>
    obtain ⟨ps, read, spells, -⟩ := ih
    refine ⟨.literal c :: ps, fun rest => ?_, fun t spelled => ?_, by simp⟩
    · rw [List.cons_append, List.cons_append, pieces?_short escape, read rest]
      rfl
    · obtain ⟨t', tail, rfl⟩ := Option.map_eq_some_iff.mp spelled
      exact .short escape (spells t' tail)
  | @code a b c d n s digits rest ih =>
    obtain ⟨ps, read, spells, second⟩ := ih
    refine ⟨.code n :: ps, fun rest => ?_, fun t spelled => ?_, ?_⟩
    · simp only [List.cons_append]
      rw [pieces?_code digits, read rest]
      rfl
    · cases high : isHighSurrogate n with
      | true =>
        -- The piece behind it is what was remembered.
        obtain ⟨m, ps', tail, rfl, low, spelled', rfl⟩ := of_spelling?_high high spelled
        obtain ⟨a', b', c', d', s', rfl, digits', spells'⟩ := second m ps' rfl
        exact .pair digits high digits' low (spells' tail spelled')
      | false =>
        cases low : isLowSurrogate n with
        | true => simp [spelling?_low ps high low] at spelled
        | false =>
          rw [spelling?_code ps high low] at spelled
          obtain ⟨t', tail, rfl⟩ := Option.map_eq_some_iff.mp spelled
          exact .code digits high low (spells t' tail)
    · rintro m rest same
      obtain ⟨rfl, rfl⟩ : n = m ∧ ps = rest := by simpa using same
      exact ⟨a, b, c, d, s, rfl, digits, spells⟩

/-- A string literal is read as what it spells, if it has a text. -/
theorem stringTail?_of_isStringBody {text : Option String} {s : List Char}
    (body : IsStringBody text s) (rest : List Char) :
    stringTail? (s ++ '"' :: rest) = some (text, rest) := by
  cases text with
  -- A text is what the pieces spell; without one, they must spell nothing.
  | some text =>
    obtain ⟨ps, read, spelled⟩ := body.pieces?
    simp [stringTail?, read, spelled]
  | none =>
    obtain ⟨literal, speechless⟩ := body
    obtain ⟨ps, read, spells, -⟩ := literal.pieces?
    -- If the pieces spelled a text, so would the literal.
    have unspelled : spelling? ps = none :=
      Option.eq_none_iff_forall_ne_some.mpr fun t spelled => speechless t (spells t spelled)
    simp [stringTail?, read, unspelled]

end TunerControl.Json
