import TunerControl.Decimal.Digits
import TunerControl.Json.Value

/-! Reading JSON text by the strict grammar. -/

namespace TunerControl.Json

open Decimal

/-- The four characters that may stand between tokens. -/
def isBlank (c : Char) : Bool :=
  c = ' ' || c = '\t' || c = '\n' || c = '\r'

/-- The text without the blanks at its front. -/
def skipBlanks (s : List Char) : List Char :=
  s.dropWhile isBlank

/-- The value of a hexadecimal digit in either case. -/
def hexOf? (c : Char) : Option Nat :=
  if '0' ≤ c ∧ c ≤ '9' then some (c.toNat - '0'.toNat)
  else if 'a' ≤ c ∧ c ≤ 'f' then some (c.toNat - 'a'.toNat + 10)
  else if 'A' ≤ c ∧ c ≤ 'F' then some (c.toNat - 'A'.toNat + 10)
  else none

/-- The 16-bit number that four hexadecimal digits spell. -/
def hex4? (a b c d : Char) : Option Nat := do
  let a ← hexOf? a
  let b ← hexOf? b
  let c ← hexOf? c
  let d ← hexOf? d
  return ((a * 16 + b) * 16 + c) * 16 + d

/-- A piece of a string literal: a character, or a 16-bit code written as an escape. -/
inductive Piece where
  | literal (c : Char)
  | code (n : Nat)
  deriving DecidableEq, Repr

/-- The character that a one-letter escape stands for. -/
def shortEscape? (c : Char) : Option Char :=
  if c = '"' then some '"'
  else if c = '\\' then some '\\'
  else if c = '/' then some '/'
  else if c = 'b' then some '\x08'
  else if c = 'f' then some '\x0c'
  else if c = 'n' then some '\n'
  else if c = 'r' then some '\r'
  else if c = 't' then some '\t'
  else none

/-- The pieces of a string literal from behind its opening quote, and the text after it. -/
def pieces? : List Char → Option (List Piece × List Char)
  | [] => none
  | '"' :: rest => some ([], rest)
  | '\\' :: 'u' :: a :: b :: c :: d :: rest => do
    let n ← hex4? a b c d
    let (ps, after) ← pieces? rest
    return (.code n :: ps, after)
  | '\\' :: c :: rest => do
    let c ← shortEscape? c
    let (ps, after) ← pieces? rest
    return (.literal c :: ps, after)
  | c :: rest =>
    if c = '\\' ∨ c.toNat < 32 then none
    else do
      let (ps, after) ← pieces? rest
      return (.literal c :: ps, after)

/-- Whether a code is the first of a surrogate pair. -/
def isHighSurrogate (n : Nat) : Bool :=
  0xd800 ≤ n && n ≤ 0xdbff

/-- Whether a code is the second of a surrogate pair. -/
def isLowSurrogate (n : Nat) : Bool :=
  0xdc00 ≤ n && n ≤ 0xdfff

/-- The characters that the pieces spell. Codes pair up, and a lone surrogate spells nothing. -/
def spelling? : List Piece → Option (List Char)
  | [] => some []
  | .literal c :: rest => (spelling? rest).map (c :: ·)
  | .code n :: .code m :: rest =>
    if isHighSurrogate n then
      if isLowSurrogate m then
        (spelling? rest).map (Char.ofNat (0x10000 + (n - 0xd800) * 0x400 + (m - 0xdc00)) :: ·)
      else none
    else if isLowSurrogate n then none
    else (spelling? (.code m :: rest)).map (Char.ofNat n :: ·)
  | .code n :: rest =>
    if isHighSurrogate n || isLowSurrogate n then none
    else (spelling? rest).map (Char.ofNat n :: ·)

/-- The text of a string literal from behind its opening quote, and what follows it. -/
def stringTail? (s : List Char) : Option (Option String × List Char) := do
  let (ps, after) ← pieces? s
  return ((spelling? ps).map String.ofList, after)

/-- The digits after a point. There must be one. -/
def fraction? : List Char → Option (List (Fin 10) × List Char)
  | '.' :: rest =>
    match leadingDigits rest with
    | ([], _) => none
    | (ds, after) => some (ds, after)
  | s => some ([], s)

/-- The sign in front of an exponent's digits. -/
def exponentSign : List Char → Bool × List Char
  | '+' :: rest => (false, rest)
  | '-' :: rest => (true, rest)
  | s => (false, s)

/-- An exponent with its mark, sign and digits. -/
def exponent? : List Char → Option (Option Int × List Char)
  | c :: rest =>
    if c = 'e' ∨ c = 'E' then
      let (negative, digits) := exponentSign rest
      match leadingDigits digits with
      | ([], _) => none
      | (ds, after) => some (some (if negative then -spelled 0 ds else spelled 0 ds), after)
    else some (none, c :: rest)
  | [] => some (none, [])

/-- The whole part of a number, which has no leading zero. -/
def whole? (s : List Char) : Option (Nat × List Char) :=
  match leadingDigits s with
  | ([], _) => none
  | (d :: ds, after) =>
    if d = zeroDigit then if ds = [] then some (0, after) else none
    else some (spelled 0 (d :: ds), after)

/-- A number from behind its sign. -/
def unsignedNumber? (negative : Bool) (s : List Char) : Option (Number × List Char) := do
  let (whole, s) ← whole? s
  let (fraction, s) ← fraction? s
  let (exponent, s) ← exponent? s
  return (⟨negative, whole, fraction, exponent⟩, s)

/-- A number at the front of a text, and what follows it. -/
def number? : List Char → Option (Number × List Char)
  | '-' :: rest => unsignedNumber? true rest
  | s => unsignedNumber? false s

mutual

/-- The value at the front of a text without blanks, and what follows it. -/
def value? : Nat → List Char → Option (Value × List Char)
  | 0, _ => none
  | fuel + 1, s =>
    match s with
    | 'n' :: 'u' :: 'l' :: 'l' :: rest => some (.null, rest)
    | 't' :: 'r' :: 'u' :: 'e' :: rest => some (.bool true, rest)
    | 'f' :: 'a' :: 'l' :: 's' :: 'e' :: rest => some (.bool false, rest)
    | '"' :: rest => (stringTail? rest).map fun (t, after) => (.string t, after)
    | '[' :: rest =>
      match skipBlanks rest with
      | ']' :: after => some (.array [], after)
      | rest => (items? fuel rest).map fun (items, after) => (.array items, after)
    | '{' :: rest =>
      match skipBlanks rest with
      | '}' :: after => some (.object [], after)
      | rest => (members? fuel rest).map fun (members, after) => (.object members, after)
    | s => (number? s).map fun (n, after) => (.number n, after)

/-- The items of an array from the first one that is left, to its closing bracket. -/
def items? : Nat → List Char → Option (List Value × List Char)
  | 0, _ => none
  | fuel + 1, s => do
    let (item, s) ← value? fuel s
    match skipBlanks s with
    | ']' :: after => return ([item], after)
    | ',' :: s =>
      let (rest, after) ← items? fuel (skipBlanks s)
      return (item :: rest, after)
    | _ => none

/-- The members of an object from the first one that is left, to its closing brace. -/
def members? : Nat → List Char → Option (List (Option String × Value) × List Char)
  | 0, _ => none
  | fuel + 1, s =>
    match s with
    | '"' :: s => do
      let (key, s) ← stringTail? s
      match skipBlanks s with
      | ':' :: s =>
        let (value, s) ← value? fuel (skipBlanks s)
        match skipBlanks s with
        | '}' :: after => return ([(key, value)], after)
        | ',' :: s =>
          let (rest, after) ← members? fuel (skipBlanks s)
          return ((key, value) :: rest, after)
        | _ => none
      | _ => none
    | _ => none

end

/-- The one value of a whole text. Each step of the reader takes at least one character. -/
def Value.parse? (text : String) : Option Value := do
  let s := text.toList
  let (value, rest) ← value? (s.length + 1) (skipBlanks s)
  if skipBlanks rest = [] then some value else none

end TunerControl.Json
