import Mathlib.Tactic.SplitIfs
import TunerControl.Proofs.Json.Reading

/-! A value that is written is read back, so that different values are written as different texts. -/

namespace TunerControl.Json

open Decimal

/-- No blanks are blanks. -/
theorem IsBlank.nil : IsBlank [] := by
  -- There is no character that could be anything else.
  simp [IsBlank]

section Strings

/-- A hexadecimal digit is read back. -/
theorem hexOf?_hexChar {n : Nat} (small : n < 16) : hexOf? (hexChar n) = some n := by
  -- Sixteen digits, each by evaluation.
  revert n
  decide

/-- The digits of a small number spell the number. -/
theorem hex4?_hexChars {n : Nat} (small : n < 32) :
    hex4? (hexChar (n / 4096 % 16)) (hexChar (n / 256 % 16)) (hexChar (n / 16 % 16))
      (hexChar (n % 16)) = some n := by
  -- The four digits are the number's remainders, of which only the last two can differ from zero.
  have value : (((n / 4096 % 16) * 16 + n / 256 % 16) * 16 + n / 16 % 16) * 16 + n % 16 = n := by
    omega
  simp [hex4?, hexOf?_hexChar (Nat.mod_lt _ (by decide : 0 < 16)), value]

/-- A character is spelled by itself or by its escape. -/
theorem spells_escaped (c : Char) {s t : List Char} (rest : Spells s t) :
    Spells (escaped c ++ s) (c :: t) := by
  -- Which escape is used is up to the character, as it is up to the reader's table.
  unfold escaped
  split_ifs with quote backslash backspace feed line carriage tab control
  · subst quote
    exact .short rfl rest
  · subst backslash
    exact .short rfl rest
  · subst backspace
    exact .short rfl rest
  · subst feed
    exact .short rfl rest
  · subst line
    exact .short rfl rest
  · subst carriage
    exact .short rfl rest
  · subst tab
    exact .short rfl rest
  · -- The other control characters are written by their codes.
    have high : isHighSurrogate c.toNat = false := by simp [isHighSurrogate]; omega
    have low : isLowSurrogate c.toNat = false := by simp [isLowSurrogate]; omega
    have spelled := Spells.code (hex4?_hexChars control) high low rest
    rw [Char.ofNat_toNat] at spelled
    exact spelled
  · exact .plain ⟨quote, backslash, by omega⟩ rest

/-- The literal of a text spells the text. -/
theorem spells_flatMap (t : List Char) : Spells (t.flatMap escaped) t := by
  -- The characters are escaped one by one.
  induction t with
  | nil => exact .nil
  | cons c t ih => exact spells_escaped c ih

/-- A lone surrogate spells nothing. -/
theorem not_spells_surrogate (t : List Char) : ¬ Spells ['\\', 'u', 'd', '8', '0', '0'] t := by
  -- The only way to read the escape is as a code, and no character has that code.
  intro spells
  cases spells with
  | plain free rest => exact free.2.1 rfl
  | short escape rest => simp [shortEscape?] at escape
  | code digits high low rest =>
    obtain rfl := Option.some.inj ((by decide : hex4? 'd' '8' '0' '0' = some 0xd800).symm.trans digits)
    simp [isHighSurrogate] at high

/-- What is written for a text is a string literal of it, and what is written for none is one of
none. -/
theorem quoted_eq (text : Option String) :
    ∃ body, quoted text = '"' :: (body ++ ['"']) ∧ IsStringBody text body := by
  cases text with
  -- A text is escaped, and for want of one a lone surrogate is written.
  | some text => exact ⟨_, rfl, spells_flatMap text.toList⟩
  | none =>
    exact ⟨['\\', 'u', 'd', '8', '0', '0'], rfl,
      .code (by decide : hex4? 'd' '8' '0' '0' = some 0xd800) .nil, not_spells_surrogate⟩

end Strings

/-- The literal of a number is one of it. -/
theorem isNumber_chars (n : Number) : IsNumber n n.chars := by
  -- All parts are written in the way in which they are read; only the exponent has a choice of
  -- signs.
  refine ⟨_, ?_, rfl⟩
  cases n.exponent with
  | none => rfl
  | some e =>
    refine ⟨'e', [if e < 0 then '-' else '+'], digits e.natAbs, Or.inl rfl, digits_ne_nil _, rfl, ?_⟩
    rw [spelled_digits]
    by_cases below : e < 0
    · exact Or.inr ⟨by simp [below], by omega⟩
    · exact Or.inl ⟨Or.inr (by simp [below]), by omega⟩

mutual

/-- What is written for a value is a text of it. -/
theorem isText_chars : ∀ v : Value, IsText v v.chars
  -- The recursion is that of the printer, with one case for each kind of value.
  | .null => .null
  | .bool true => .true
  | .bool false => .false
  | .number n => .number (isNumber_chars n)
  | .string text => by
    obtain ⟨body, same, spells⟩ := quoted_eq text
    rw [Value.chars, same]
    exact .string spells
  | .array [] => .emptyArray .nil
  | .array (item :: rest) => by
    have items := isItems_chars rest (isText_chars item)
    simpa [Value.chars] using IsText.array .nil items
  | .object [] => .emptyObject .nil
  | .object ((key, value) :: rest) => by
    have members := isMembers_chars rest key (isText_chars value)
    simpa [Value.chars] using IsText.object .nil members

/-- What is written for the further items of an array ends the text of its items. -/
theorem isItems_chars : ∀ (rest : List Value) {item : Value} {s : List Char}, IsText item s →
    IsItems (item :: rest) (s ++ Value.itemsChars rest)
  -- Each further item is written behind a separator, and the last one before the bracket.
  | [], _, _, text => by simpa [Value.itemsChars] using IsItems.last text .nil
  | next :: rest, _, _, text => by
    have further := isItems_chars rest (isText_chars next)
    simpa [Value.itemsChars] using IsItems.more text .nil .nil further

/-- What is written for the further members of an object ends the text of its members. -/
theorem isMembers_chars : ∀ (rest : List (Option String × Value)) (key : Option String)
    {value : Value} {s : List Char}, IsText value s →
      IsMembers ((key, value) :: rest) (quoted key ++ ':' :: (s ++ Value.membersChars rest))
  -- Each further member is written behind a separator, and the last one before the brace.
  | [], key, _, _, text => by
    obtain ⟨body, same, spells⟩ := quoted_eq key
    simpa [Value.membersChars, same] using IsMembers.last spells .nil .nil text .nil
  | (next, value) :: rest, key, _, _, text => by
    obtain ⟨body, same, spells⟩ := quoted_eq key
    have further := isMembers_chars rest next (isText_chars value)
    simpa [Value.membersChars, same] using
      IsMembers.more spells .nil .nil text .nil .nil further

end

/-- What is written for a value is a document that holds it. -/
theorem isDocument_render (v : Value) : IsDocument v v.render :=
  -- Nothing is written around the value.
  ⟨[], v.chars, [], .nil, isText_chars v, .nil, by simp [Value.render]⟩

/-- Every value is read back from what is written for it. -/
theorem parse?_render (v : Value) : Value.parse? v.render = some v :=
  -- That is a document that holds the value, and documents are read as what they hold.
  parse?_of_isDocument (isDocument_render v)

/-- Different values are written as different texts. -/
theorem render_injective {v w : Value} (same : v.render = w.render) : v = w :=
  -- Both are read back from the one text.
  Option.some.inj ((parse?_render v).symm.trans (same ▸ parse?_render w))

end TunerControl.Json
