import TunerControl.Calendar

/-! How the calendar and the clock go on, from one day to the next and from one second to the next, and
how the text of a moment is read. -/

namespace TunerControl.Calendar

open Decimal

/-- The days of a month: thirty in April, June, September and November, in February 28 or in a leap
year 29, and 31 in all others. -/
def monthLength (year : Nat) : Nat → Nat
  | 2 => if isLeap year then 29 else 28
  | 4 | 6 | 9 | 11 => 30
  | _ => 31

/-- The days of a year. -/
def yearLength (year : Nat) : Nat :=
  if isLeap year then 366 else 365

/-- The day after a date: the next one of its month, or else the first of the next month, or else the
first of the next year. -/
def Date.next (d : Date) : Date :=
  if d.day < monthLength d.year d.month then ⟨d.year, d.month, d.day + 1⟩
  else if d.month < 12 then ⟨d.year, d.month + 1, 1⟩
  else ⟨d.year + 1, 1, 1⟩

namespace Moment

/-- Whether a moment is on a date of the calendar, at a time of the day. -/
def isValid (m : Moment) : Bool :=
  m.date.isValid && m.hour < 24 && m.minute < 60 && m.second < 60

/-- The moment a second later. -/
def next (m : Moment) : Moment :=
  if m.second < 59 then ⟨m.date, m.hour, m.minute, m.second + 1⟩
  else if m.minute < 59 then ⟨m.date, m.hour, m.minute + 1, 0⟩
  else if m.hour < 23 then ⟨m.date, m.hour + 1, 0, 0⟩
  else ⟨m.date.next, 0, 0, 0⟩

/-- The moment some seconds later. -/
def later (m : Moment) : Nat → Moment
  | 0 => m
  | seconds + 1 => (m.later seconds).next

end Moment

/-- The moment that seconds are counted from. -/
def epoch : Moment :=
  ⟨⟨1970, 1, 1⟩, 0, 0, 0⟩

/-- What converts seconds after the start of 1970 keeps to the calendar: it begins with that start, goes on
from each second to the next as the clock does, and converts nothing after the calendar's range. -/
structure KeepsTime (convert : Nat → Option Moment) : Prop where
  start : convert 0 = some epoch
  goesOn : ∀ (seconds : Nat) m, seconds < lastSecond → convert seconds = some m →
    convert (seconds + 1) = some m.next
  ends : ∀ seconds : Nat, lastSecond < seconds → convert seconds = none

/-- The number that so many digits at the front of a text spell, if there are no more and no fewer of
them, and what follows. -/
def field? (width : Nat) (text : List Char) : Option (Nat × List Char) :=
  let (ds, rest) := leadingDigits text
  if ds.length = width then some (spelled 0 ds, rest) else none

/-- The year at the front of a text: four digits, or a sign and the digits of a greater number. -/
def year? : List Char → Option (Nat × List Char)
  | '+' :: text =>
    let (ds, rest) := leadingDigits text
    if 9999 < spelled 0 ds then some (spelled 0 ds, rest) else none
  | text => field? 4 text

/-- What follows a mark at the front of a text. -/
def mark? (mark : Char) : List Char → Option (List Char)
  | [] => none
  | c :: rest => if c = mark then some rest else none

/-- The date at the front of a text: year, month and day with dashes between them. -/
def date? (text : List Char) : Option (Date × List Char) := do
  let (year, text) ← year? text
  let text ← mark? '-' text
  let (month, text) ← field? 2 text
  let text ← mark? '-' text
  let (day, text) ← field? 2 text
  return (⟨year, month, day⟩, text)

/-- The moment that a text is of: date and time of the day in UTC, as RFC 3339 has them. -/
def Moment.ofText? (text : String) : Option Moment := do
  let (date, text) ← date? text.toList
  let text ← mark? 'T' text
  let (hour, text) ← field? 2 text
  let text ← mark? ':' text
  let (minute, text) ← field? 2 text
  let text ← mark? ':' text
  let (second, text) ← field? 2 text
  if text = ['+', '0', '0', ':', '0', '0'] then some ⟨date, hour, minute, second⟩ else none

/-- A text denotes so many seconds after the start of 1970. It is of a moment on a date of the calendar
and at a time of the day, to which the clock comes in as many seconds, and up to which as many seconds
are counted. -/
def Denotes (text : String) (seconds : Int) : Prop :=
  ∃ m, Moment.ofText? text = some m ∧ m.isValid = true ∧ epoch.later seconds.toNat = m ∧
    m.toEpoch = seconds

/-- What is told of some seconds after the start of 1970: nothing of that start itself, of what was before
it and of what is after year 262142, and of any others a moment whose text denotes them. -/
structure Tells (seconds : Int) (told : Option Moment) : Prop where
  untold : told = none ↔ seconds ≤ 0 ∨ 8210266876799 < seconds
  denotes : ∀ m ∈ told, Denotes m.text seconds

end TunerControl.Calendar
