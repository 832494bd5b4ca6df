import TunerControl.Decimal.Digits
import TunerControl.Json.Parser

/-! The texts of JSON values by the grammar: blanks between tokens, any spelling of a string, numbers
without leading zeros, and the members of an object in order. -/

namespace TunerControl.Json

open Decimal

/-- A text may stand between tokens. -/
def IsBlank (s : List Char) : Prop :=
  ∀ c ∈ s, isBlank c = true

/-- A character may stand for itself in a string literal. -/
def IsPlain (c : Char) : Prop :=
  c ≠ '"' ∧ c ≠ '\\' ∧ 32 ≤ c.toNat

/-- A text may stand between the quotes of a string literal. Codes may be lone surrogates. -/
inductive IsLiteral : List Char → Prop where
  | nil : IsLiteral []
  | plain {c : Char} {s : List Char} (free : IsPlain c) (rest : IsLiteral s) : IsLiteral (c :: s)
  | short {e c : Char} {s : List Char} (escape : shortEscape? e = some c) (rest : IsLiteral s) :
      IsLiteral ('\\' :: e :: s)
  | code {a b c d : Char} {n : Nat} {s : List Char} (digits : hex4? a b c d = some n)
      (rest : IsLiteral s) : IsLiteral ('\\' :: 'u' :: a :: b :: c :: d :: s)

/-- What stands between the quotes of a string literal spells some characters. A code spells one
unless it is a surrogate, and a pair of surrogates spells one. -/
inductive Spells : List Char → List Char → Prop where
  | nil : Spells [] []
  | plain {c : Char} {s t : List Char} (free : IsPlain c) (rest : Spells s t) :
      Spells (c :: s) (c :: t)
  | short {e c : Char} {s t : List Char} (escape : shortEscape? e = some c) (rest : Spells s t) :
      Spells ('\\' :: e :: s) (c :: t)
  | code {a b c d : Char} {n : Nat} {s t : List Char} (digits : hex4? a b c d = some n)
      (high : isHighSurrogate n = false) (low : isLowSurrogate n = false) (rest : Spells s t) :
      Spells ('\\' :: 'u' :: a :: b :: c :: d :: s) (Char.ofNat n :: t)
  | pair {a b c d a' b' c' d' : Char} {n m : Nat} {s t : List Char}
      (first : hex4? a b c d = some n) (high : isHighSurrogate n = true)
      (second : hex4? a' b' c' d' = some m) (low : isLowSurrogate m = true) (rest : Spells s t) :
      Spells ('\\' :: 'u' :: a :: b :: c :: d :: '\\' :: 'u' :: a' :: b' :: c' :: d' :: s)
        (Char.ofNat (0x10000 + (n - 0xd800) * 0x400 + (m - 0xdc00)) :: t)

/-- What stands between the quotes of a string literal has a text, or has none as a lone surrogate
is in it. -/
def IsStringBody : Option String → List Char → Prop
  | some text, s => Spells s text.toList
  | none, s => IsLiteral s ∧ ∀ t, ¬ Spells s t

/-- A text is an exponent with its mark, or there is no exponent. -/
def IsExponent : Option Int → List Char → Prop
  | none, s => s = []
  | some e, s => ∃ mark sign digits, (mark = 'e' ∨ mark = 'E') ∧ digits ≠ [] ∧
      s = mark :: (sign ++ digits.map digitChar) ∧
      ((sign = [] ∨ sign = ['+']) ∧ e = spelled 0 digits ∨ sign = ['-'] ∧ e = -spelled 0 digits)

/-- The part of a number in front of its exponent. -/
def Number.decimalChars (n : Number) : List Char :=
  (if n.negative then ['-'] else []) ++ natChars n.whole
    ++ (if n.fraction = [] then [] else '.' :: n.fraction.map digitChar)

/-- A text is a literal of a number. -/
def IsNumber (n : Number) (s : List Char) : Prop :=
  ∃ exponent, IsExponent n.exponent exponent ∧ s = n.decimalChars ++ exponent

mutual

/-- A text is one of a value, without blanks around it. -/
inductive IsText : Value → List Char → Prop where
  | null : IsText .null ['n', 'u', 'l', 'l']
  | true : IsText (.bool true) ['t', 'r', 'u', 'e']
  | false : IsText (.bool false) ['f', 'a', 'l', 's', 'e']
  | number {n : Number} {s : List Char} (literal : IsNumber n s) : IsText (.number n) s
  | string {text : Option String} {s : List Char} (body : IsStringBody text s) :
      IsText (.string text) ('"' :: (s ++ ['"']))
  | emptyArray {b : List Char} (blank : IsBlank b) : IsText (.array []) ('[' :: (b ++ [']']))
  | array {items : List Value} {b s : List Char} (blank : IsBlank b) (rest : IsItems items s) :
      IsText (.array items) ('[' :: (b ++ s))
  | emptyObject {b : List Char} (blank : IsBlank b) : IsText (.object []) ('{' :: (b ++ ['}']))
  | object {members : List (Option String × Value)} {b s : List Char} (blank : IsBlank b)
      (rest : IsMembers members s) : IsText (.object members) ('{' :: (b ++ s))

/-- A text is one of the items of an array, from the first one to the closing bracket. -/
inductive IsItems : List Value → List Char → Prop where
  | last {item : Value} {s b : List Char} (text : IsText item s) (blank : IsBlank b) :
      IsItems [item] (s ++ b ++ [']'])
  | more {item : Value} {items : List Value} {s b b' rest : List Char} (text : IsText item s)
      (before : IsBlank b) (after : IsBlank b') (further : IsItems items rest) :
      IsItems (item :: items) (s ++ b ++ ',' :: (b' ++ rest))

/-- A text is one of the members of an object, from the first one to the closing brace. -/
inductive IsMembers : List (Option String × Value) → List Char → Prop where
  | last {key : Option String} {value : Value} {k b b' s b'' : List Char}
      (literal : IsStringBody key k) (before : IsBlank b) (after : IsBlank b')
      (text : IsText value s) (blank : IsBlank b'') :
      IsMembers [(key, value)] ('"' :: (k ++ '"' :: (b ++ ':' :: (b' ++ s ++ b'' ++ ['}']))))
  | more {key : Option String} {value : Value} {members : List (Option String × Value)}
      {k b b' s b'' lead rest : List Char} (literal : IsStringBody key k) (before : IsBlank b)
      (after : IsBlank b') (text : IsText value s) (blank : IsBlank b'') (next : IsBlank lead)
      (further : IsMembers members rest) :
      IsMembers ((key, value) :: members)
        ('"' :: (k ++ '"' :: (b ++ ':' :: (b' ++ s ++ b'' ++ ',' :: (lead ++ rest)))))

end

/-- A text holds one value, with blanks around it. -/
def IsDocument (v : Value) (text : String) : Prop :=
  ∃ before s after, IsBlank before ∧ IsText v s ∧ IsBlank after ∧
    text.toList = before ++ s ++ after

end TunerControl.Json
