import TunerControl.Decimal.Digits
import TunerControl.Json.Value

/-! The text of a JSON value: no spaces, members in order, and the shortest escapes. -/

namespace TunerControl.Json

open Decimal

/-- The character of a hexadecimal digit, letters in lower case. -/
def hexChar (n : Nat) : Char :=
  if n < 10 then Char.ofNat ('0'.toNat + n) else Char.ofNat ('a'.toNat + n - 10)

/-- The four hexadecimal digits of a 16-bit number. -/
def hexChars (n : Nat) : List Char :=
  [hexChar (n / 4096 % 16), hexChar (n / 256 % 16), hexChar (n / 16 % 16), hexChar (n % 16)]

/-- Quotes, backslashes and control characters are escaped, and all else stands for itself. -/
def escaped (c : Char) : List Char :=
  if c = '"' then ['\\', '"']
  else if c = '\\' then ['\\', '\\']
  else if c = '\x08' then ['\\', 'b']
  else if c = '\x0c' then ['\\', 'f']
  else if c = '\n' then ['\\', 'n']
  else if c = '\r' then ['\\', 'r']
  else if c = '\t' then ['\\', 't']
  else if c.toNat < 32 then ['\\', 'u'] ++ hexChars c.toNat
  else [c]

/-- The literal of a string. One without Unicode text is written as a lone surrogate. -/
def quoted : Option String → List Char
  | some s => ['"'] ++ s.toList.flatMap escaped ++ ['"']
  | none => ['"', '\\', 'u', 'd', '8', '0', '0', '"']

/-- The exponent of a number, its sign always written. -/
def exponentChars (e : Int) : List Char :=
  ['e', if e < 0 then '-' else '+'] ++ natChars e.natAbs

/-- The literal of a number. -/
def Number.chars (n : Number) : List Char :=
  (if n.negative then ['-'] else []) ++ natChars n.whole
    ++ (if n.fraction = [] then [] else '.' :: n.fraction.map digitChar)
    ++ (match n.exponent with | some e => exponentChars e | none => [])

namespace Value

mutual

/-- The text of a value. -/
def chars : Value → List Char
  | .null => ['n', 'u', 'l', 'l']
  | .bool true => ['t', 'r', 'u', 'e']
  | .bool false => ['f', 'a', 'l', 's', 'e']
  | .number n => n.chars
  | .string s => quoted s
  | .array [] => ['[', ']']
  | .array (item :: rest) => ['['] ++ chars item ++ itemsChars rest
  | .object [] => ['{', '}']
  | .object ((key, value) :: rest) =>
    ['{'] ++ quoted key ++ [':'] ++ chars value ++ membersChars rest

/-- The text of the further items of an array, to its end. -/
def itemsChars : List Value → List Char
  | [] => [']']
  | item :: rest => [','] ++ chars item ++ itemsChars rest

/-- The text of the further members of an object, to its end. -/
def membersChars : List (Option String × Value) → List Char
  | [] => ['}']
  | (key, value) :: rest => [','] ++ quoted key ++ [':'] ++ chars value ++ membersChars rest

end

/-- The text of a value. -/
def render (v : Value) : String :=
  String.ofList v.chars

end Value

end TunerControl.Json
