import TunerControl.Proofs.Json.Numbers
import TunerControl.Proofs.Json.Strings

/-! Whatever is a text of a value by the grammar is read as that value. -/

namespace TunerControl.Json

open Decimal

section Blanks

variable {b s : List Char}

/-- Blanks in front are passed over. -/
theorem skipBlanks_append (blank : IsBlank b) (s : List Char) :
    skipBlanks (b ++ s) = skipBlanks s := by
  -- They are passed one by one.
  induction b with
  | nil => rfl
  | cons c b ih =>
    have first : isBlank c = true := blank c List.mem_cons_self
    simpa [skipBlanks, first] using ih fun d member => blank d (List.mem_cons_of_mem c member)

/-- Where no blank is in front, nothing is passed over. -/
theorem skipBlanks_cons {c : Char} (solid : isBlank c = false) (s : List Char) :
    skipBlanks (c :: s) = c :: s := by
  -- The first character already ends the blanks.
  simp [skipBlanks, solid]

/-- Blanks before a text that begins with none are passed over. -/
theorem skipBlanks_of_solid (blank : IsBlank b) {c : Char} {tail : List Char} (begins : s = c :: tail)
    (solid : isBlank c = false) : skipBlanks (b ++ s) = s := by
  -- Behind the blanks the text begins with something else, where the skipping ends.
  rw [skipBlanks_append blank, begins, skipBlanks_cons solid]

end Blanks

section Beginnings

/-- The first character of a text of a value. -/
structure Begins (s : List Char) (c : Char) (tail : List Char) : Prop where
  eq : s = c :: tail
  solid : isBlank c = false
  open_ : c ≠ ']'

/-- A number begins with a sign or a digit. -/
theorem begins_of_isNumber {n : Number} {s : List Char} (literal : IsNumber n s) :
    ∃ c tail, s = c :: tail ∧ (c = '-' ∨ ∃ d, c = digitChar d) := by
  -- The whole part has at least one digit, with a minus in front of it or not.
  obtain ⟨exponent, -, rfl⟩ := literal
  obtain ⟨d, ds, split⟩ := List.exists_cons_of_ne_nil (digits_ne_nil n.whole)
  cases sign : n.negative with
  | true => exact ⟨'-', _, by simp [Number.decimalChars, sign]; rfl, Or.inl rfl⟩
  | false =>
    exact ⟨digitChar d, _, by simp [Number.decimalChars, sign, natChars, split]; rfl,
      Or.inr ⟨d, rfl⟩⟩

/-- No digit is a character that another token begins with. -/
theorem digitChar_apart (d : Fin 10) : isBlank (digitChar d) = false ∧
    digitChar d ∉ ['n', 't', 'f', '"', '[', '{', ']'] := by
  -- There are ten digits to look at.
  revert d
  decide

/-- The text of a value begins with a character that is neither blank nor a closing bracket. -/
theorem begins_of_isText {v : Value} {s : List Char} (text : IsText v s) :
    ∃ c tail, Begins s c tail := by
  -- Every kind of value has a first character of its own, and a number one of eleven.
  cases text with
  | number literal =>
    obtain ⟨c, tail, rfl, rfl | ⟨d, rfl⟩⟩ := begins_of_isNumber literal
    · exact ⟨_, _, rfl, by decide, by decide⟩
    · obtain ⟨solid, apart⟩ := digitChar_apart d
      exact ⟨_, _, rfl, solid, fun same => apart (by simp [same])⟩
  | _ => exact ⟨_, _, rfl, by decide, by decide⟩

/-- So do the items of an array. -/
theorem begins_of_isItems {items : List Value} {s : List Char} (text : IsItems items s) :
    ∃ c tail, Begins s c tail := by
  -- They begin with the text of the first one.
  cases text with
  | last text blank =>
    obtain ⟨c, tail, rfl, solid, open_⟩ := begins_of_isText text
    exact ⟨c, _, rfl, solid, open_⟩
  | more text before after further =>
    obtain ⟨c, tail, rfl, solid, open_⟩ := begins_of_isText text
    exact ⟨c, _, rfl, solid, open_⟩

/-- The members of an object begin with the quote of the first key. -/
theorem begins_of_isMembers {members : List (Option String × Value)} {s : List Char}
    (text : IsMembers members s) : ∃ tail, s = '"' :: tail := by
  -- In both forms, the key of the first member comes first.
  cases text <;> exact ⟨_, rfl⟩

end Beginnings

section Steps

variable {fuel : Nat} {s after : List Char}

/-- What begins like a number is read as one. -/
theorem value?_number {c : Char} {tail : List Char}
    (apart : c ∉ ['n', 't', 'f', '"', '[', '{', ']']) :
    value? (fuel + 1) (c :: tail) =
      (number? (c :: tail)).map fun (n, after) => (.number n, after) := by
  -- All other kinds of values are told by their first character.
  rw [value?.eq_def]
  dsimp only
  split <;> simp_all

/-- An array that is closed at once has no items. -/
theorem value?_emptyArray (skip : skipBlanks s = ']' :: after) :
    value? (fuel + 1) ('[' :: s) = some (.array [], after) := by
  -- What comes behind the blanks decides.
  simp [value?, skip]

/-- An array that is not closed at once is read as its items. -/
theorem value?_array {c : Char} {tail : List Char} (skip : skipBlanks s = c :: tail)
    (open_ : c ≠ ']') : value? (fuel + 1) ('[' :: s) =
      (items? fuel (c :: tail)).map fun (items, after) => (.array items, after) := by
  -- The bracket that would close it is not what comes behind the blanks.
  simp only [value?, skip]
  split
  · rename_i same
    exact absurd (List.cons.inj same).1 open_
  · rfl

/-- An object that is closed at once has no members. -/
theorem value?_emptyObject (skip : skipBlanks s = '}' :: after) :
    value? (fuel + 1) ('{' :: s) = some (.object [], after) := by
  -- What comes behind the blanks decides.
  simp [value?, skip]

/-- An object that goes on with a key is read as its members. -/
theorem value?_object {tail : List Char} (skip : skipBlanks s = '"' :: tail) :
    value? (fuel + 1) ('{' :: s) =
      (members? fuel ('"' :: tail)).map fun (members, after) => (.object members, after) := by
  -- The quote behind the blanks tells that there is a member.
  simp [value?, skip]

variable {item : Value} {behind next : List Char}

/-- The item before a closing bracket is the last one. -/
theorem items?_last (read : value? fuel s = some (item, behind))
    (skip : skipBlanks behind = ']' :: after) : items? (fuel + 1) s = some ([item], after) := by
  -- What comes behind the item decides.
  simp [items?, read, skip]

/-- Behind a separator there are more items. -/
theorem items?_more {items : List Value} (read : value? fuel s = some (item, behind))
    (skip : skipBlanks behind = ',' :: next)
    (further : items? fuel (skipBlanks next) = some (items, after)) :
    items? (fuel + 1) s = some (item :: items, after) := by
  -- What comes behind the item decides.
  simp [items?, read, skip, further]

variable {key : Option String} {value : Value} {colon : List Char}

/-- The member before a closing brace is the last one. -/
theorem members?_last (literal : stringTail? s = some (key, colon))
    (separated : skipBlanks colon = ':' :: behind)
    (read : value? fuel (skipBlanks behind) = some (value, next))
    (skip : skipBlanks next = '}' :: after) :
    members? (fuel + 1) ('"' :: s) = some ([(key, value)], after) := by
  -- Key, colon and value are read in turn, and what comes behind them decides.
  simp [members?, literal, separated, read, skip]

/-- Behind a separator there are more members. -/
theorem members?_more {further : List Char} {members : List (Option String × Value)}
    (literal : stringTail? s = some (key, colon)) (separated : skipBlanks colon = ':' :: behind)
    (read : value? fuel (skipBlanks behind) = some (value, next))
    (skip : skipBlanks next = ',' :: further)
    (rest : members? fuel (skipBlanks further) = some (members, after)) :
    members? (fuel + 1) ('"' :: s) = some ((key, value) :: members, after) := by
  -- Key, colon and value are read in turn, and what comes behind them decides.
  simp [members?, literal, separated, read, skip, rest]

end Steps

/-- Texts that are shorter than the fuel are read as what they are texts of. -/
structure Reads (fuel : Nat) : Prop where
  value : ∀ {v : Value} {s rest : List Char}, IsText v s → s.length < fuel → Ends rest →
    value? fuel (s ++ rest) = some (v, rest)
  items : ∀ {items : List Value} {s : List Char} (rest : List Char), IsItems items s →
    s.length < fuel → items? fuel (s ++ rest) = some (items, rest)
  members : ∀ {members : List (Option String × Value)} {s : List Char} (rest : List Char),
    IsMembers members s → s.length < fuel → members? fuel (s ++ rest) = some (members, rest)

/-- With one more unit of fuel, texts of values may be one character longer. -/
theorem Reads.value_succ {fuel : Nat} (reads : Reads fuel) {v : Value} {s rest : List Char}
    (text : IsText v s) (short : s.length < fuel + 1) (ends : Ends rest) :
    value? (fuel + 1) (s ++ rest) = some (v, rest) := by
  -- The opening bracket or brace costs one character and one unit of fuel.
  cases text with
  | null => rfl
  | true => rfl
  | false => rfl
  -- A number is told by its first character, and ends where a token may end.
  | number literal =>
    have read := number?_of_isNumber literal ends
    obtain ⟨c, tail, rfl, begins⟩ := begins_of_isNumber literal
    have apart : c ∉ ['n', 't', 'f', '"', '[', '{', ']'] := by
      rcases begins with rfl | ⟨d, rfl⟩
      · decide
      · exact (digitChar_apart d).2
    rw [List.cons_append] at read ⊢
    rw [value?_number apart, read]
    rfl
  | string body =>
    have read := stringTail?_of_isStringBody body rest
    simp [value?, read]
  | emptyArray blank =>
    have skip := skipBlanks_append blank (']' :: rest)
    simpa using value?_emptyArray (skip.trans (skipBlanks_cons (by decide) rest))
  -- Behind the bracket and the blanks, the items are read with less fuel.
  | @array items b s blank further =>
    obtain ⟨c, tail, begins⟩ := begins_of_isItems further
    have skip : skipBlanks (b ++ (s ++ rest)) = c :: (tail ++ rest) := by
      rw [skipBlanks_append blank, begins.eq, List.cons_append, skipBlanks_cons begins.solid]
    have read := reads.items rest further (by simp at short; omega)
    rw [begins.eq, List.cons_append] at read
    have step : value? (fuel + 1) ('[' :: (b ++ (s ++ rest))) = _ := value?_array skip begins.open_
    rw [read] at step
    simpa using step
  | emptyObject blank =>
    have skip := skipBlanks_append blank ('}' :: rest)
    simpa using value?_emptyObject (skip.trans (skipBlanks_cons (by decide) rest))
  -- So are the members of an object.
  | @object members b s blank further =>
    obtain ⟨tail, begins⟩ := begins_of_isMembers further
    have skip : skipBlanks (b ++ (s ++ rest)) = '"' :: (tail ++ rest) := by
      rw [skipBlanks_append blank, begins, List.cons_append, skipBlanks_cons (by decide)]
    have read := reads.members rest further (by simp at short; omega)
    rw [begins, List.cons_append] at read
    have step : value? (fuel + 1) ('{' :: (b ++ (s ++ rest))) = _ := value?_object skip
    rw [read] at step
    simpa using step

/-- So may texts of items. -/
theorem Reads.items_succ {fuel : Nat} (reads : Reads fuel) {items : List Value} {s : List Char}
    (rest : List Char) (text : IsItems items s) (short : s.length < fuel + 1) :
    items? (fuel + 1) (s ++ rest) = some (items, rest) := by
  -- What comes behind an item is the end of the array or a separator, and either ends the item.
  cases text with
  | @last item s b text blank =>
    have read := reads.value text (by simp at short; omega)
      (Ends.blank blank (Ends.bracket rest))
    have skip := skipBlanks_append blank (']' :: rest)
    simpa using items?_last read (skip.trans (skipBlanks_cons (by decide) rest))
  | @more item items s b b' t text before after further =>
    have read := reads.value text (by simp at short; omega)
      (Ends.blank before (Ends.separator (b' ++ t ++ rest)))
    have skip := (skipBlanks_append before (',' :: (b' ++ t ++ rest))).trans
      (skipBlanks_cons (by decide) _)
    obtain ⟨c, tail, begins⟩ := begins_of_isItems further
    have next : skipBlanks (b' ++ t ++ rest) = t ++ rest := by
      rw [List.append_assoc]
      exact skipBlanks_of_solid after (by rw [begins.eq, List.cons_append]) begins.solid
    have others := reads.items rest further (by simp at short; omega)
    rw [← next] at others
    simpa using items?_more read skip others

/-- So may texts of members. -/
theorem Reads.members_succ {fuel : Nat} (reads : Reads fuel)
    {members : List (Option String × Value)} {s : List Char} (rest : List Char)
    (text : IsMembers members s) (short : s.length < fuel + 1) :
    members? (fuel + 1) (s ++ rest) = some (members, rest) := by
  -- Behind the key, a colon; behind that, the value; and behind that, a separator or the end.
  have keyed {b b' : List Char} (before : IsBlank b) (after : IsBlank b') {v : Value}
      {s t : List Char} (text : IsText v s) :
      skipBlanks (b ++ ':' :: (b' ++ (s ++ t))) = ':' :: (b' ++ (s ++ t)) ∧
        skipBlanks (b' ++ (s ++ t)) = s ++ t := by
    obtain ⟨c, tail, begins⟩ := begins_of_isText text
    exact ⟨(skipBlanks_append before _).trans (skipBlanks_cons (by decide) _),
      skipBlanks_of_solid after (by rw [begins.eq, List.cons_append]) begins.solid⟩
  cases text with
  | @last key value k b b' s b'' literal before after text blank =>
    obtain ⟨separated, solid⟩ := keyed (t := b'' ++ '}' :: rest) before after text
    have read := reads.value text (by simp at short; omega)
      (Ends.blank blank (Ends.brace rest))
    have skip := (skipBlanks_append blank ('}' :: rest)).trans (skipBlanks_cons (by decide) rest)
    rw [← solid] at read
    simpa using members?_last (stringTail?_of_isStringBody literal _) separated read skip
  | @more key value members k b b' s b'' lead t literal before after text blank next further =>
    obtain ⟨separated, solid⟩ := keyed (t := b'' ++ ',' :: (lead ++ (t ++ rest))) before after text
    have read := reads.value text (by simp at short; omega)
      (Ends.blank blank (Ends.separator (lead ++ (t ++ rest))))
    have skip := (skipBlanks_append blank (',' :: (lead ++ (t ++ rest)))).trans
      (skipBlanks_cons (by decide) _)
    obtain ⟨tail, begins⟩ := begins_of_isMembers further
    have following : skipBlanks (lead ++ (t ++ rest)) = t ++ rest :=
      skipBlanks_of_solid next (by rw [begins, List.cons_append]) (by decide)
    have others := reads.members rest further (by simp at short; omega)
    rw [← following] at others
    rw [← solid] at read
    simpa using members?_more (stringTail?_of_isStringBody literal _) separated read skip others

/-- Any fuel is enough for shorter texts: each step of the reader is at a shorter one. -/
theorem reads (fuel : Nat) : Reads fuel := by
  -- The induction is on the fuel; without any there are no shorter texts.
  induction fuel with
  | zero =>
    exact ⟨fun _ short => absurd short (by omega), fun _ _ short => absurd short (by omega),
      fun _ _ short => absurd short (by omega)⟩
  | succ fuel ih => exact ⟨ih.value_succ, ih.items_succ, ih.members_succ⟩

/-- A document is read as the value that it holds. -/
theorem parse?_of_isDocument {v : Value} {text : String} (document : IsDocument v text) :
    Value.parse? text = some v := by
  -- The reader has one unit of fuel more than there are characters.
  obtain ⟨before, s, after, leading, is, trailing, split⟩ := document
  obtain ⟨c, tail, begins⟩ := begins_of_isText is
  have skip : skipBlanks (before ++ (s ++ after)) = s ++ after :=
    skipBlanks_of_solid leading (by rw [begins.eq, List.cons_append]) begins.solid
  have ends : Ends after := by simpa using Ends.blank trailing Ends.nil
  have read := (reads ((before ++ (s ++ after)).length + 1)).value is (by simp; omega) ends
  -- Nothing but blanks may be left behind the value.
  have rest : skipBlanks after = [] := by simpa [skipBlanks] using skipBlanks_append trailing []
  unfold Value.parse?
  dsimp only
  rw [split, List.append_assoc, skip, read]
  simp [rest]

end TunerControl.Json
