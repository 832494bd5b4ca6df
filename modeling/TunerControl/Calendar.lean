import TunerControl.Decimal.Digits

/-! The Gregorian calendar, and moments in UTC as text. -/

namespace TunerControl.Calendar

open Decimal

/-- Every fourth year is a leap year, every hundredth is not, and every four-hundredth is. -/
def isLeap (year : Nat) : Bool :=
  year % 4 = 0 && (year % 100 ≠ 0 || year % 400 = 0)

/-- The days of each month of a year. -/
def monthLengths (year : Nat) : List Nat :=
  [31, if isLeap year then 29 else 28, 31, 30, 31, 30, 31, 31, 30, 31, 30, 31]

/-- The days from the first day of year one to the first day of a year. -/
def daysBeforeYear (year : Nat) : Nat :=
  365 * (year - 1) + (year - 1) / 4 - (year - 1) / 100 + (year - 1) / 400

/-- The year of a day counted from the first day of year one. The mean length of a year gives it
up to one. -/
def yearOfDay (day : Nat) : Nat :=
  let guess := 400 * day / 146097 + 1
  if day < daysBeforeYear guess then guess - 1
  else if daysBeforeYear (guess + 1) ≤ day then guess + 1
  else guess

/-- A day of a year. -/
structure Date where
  year : Nat
  month : Nat
  day : Nat
  deriving DecidableEq, Repr

/-- The month and the day in it, given the months that are left and the days since they began. -/
def monthAndDay (month : Nat) : List Nat → Nat → Nat × Nat
  | [], days => (month, days + 1)
  | length :: rest, days =>
    if days < length then (month, days + 1) else monthAndDay (month + 1) rest (days - length)

/-- The date of a day counted from the first day of year one. -/
def dateOfDay (day : Nat) : Date :=
  let year := yearOfDay day
  let (month, dayOfMonth) := monthAndDay 1 (monthLengths year) (day - daysBeforeYear year)
  ⟨year, month, dayOfMonth⟩

/-- The days from the first day of a year to the first day of a month. -/
def daysBeforeMonth (year month : Nat) : Nat :=
  ((monthLengths year).take (month - 1)).foldr (· + ·) 0

/-- The day of a date, counted from the first day of year one. -/
def Date.toDay (d : Date) : Nat :=
  daysBeforeYear d.year + daysBeforeMonth d.year d.month + (d.day - 1)

/-- Whether a date is one of the calendar. -/
def Date.isValid (d : Date) : Bool :=
  1 ≤ d.year && 1 ≤ d.month && d.month ≤ 12 && 1 ≤ d.day
    && d.day ≤ (monthLengths d.year).getD (d.month - 1) 0

/-- A second of a day in UTC. -/
structure Moment where
  date : Date
  hour : Nat
  minute : Nat
  second : Nat
  deriving DecidableEq, Repr

/-- The first day of 1970, counted from the first day of year one. -/
def epochDay : Nat := 719162

/-- The last second that is taken for a moment, at the end of year 262142. -/
def lastSecond : Int := 8210266876799

/-- The moment some seconds after the start of 1970, if the calendar's range goes so far. -/
def ofTimestamp? (seconds : Nat) : Option Moment :=
  if lastSecond < seconds then none
  else some { date := dateOfDay (epochDay + seconds / 86400)
              hour := seconds / 3600 % 24
              minute := seconds / 60 % 60
              second := seconds % 60 }

/-- The moment of some seconds, by what converts those after the start of 1970. It is not asked about the
start itself and what was before it, which stand for no moment. -/
def momentBy? (convert : Nat → Option Moment) (seconds : Int) : Option Moment :=
  if seconds ≤ 0 then none else convert seconds.toNat

/-- The moment some seconds after the start of 1970. The start itself and what is out of the
calendar's range stand for no moment. -/
def momentOfEpoch? (seconds : Int) : Option Moment :=
  momentBy? ofTimestamp? seconds

/-- The seconds from the start of 1970 to a moment. -/
def Moment.toEpoch (m : Moment) : Int :=
  ((m.date.toDay : Int) - epochDay) * 86400 + m.hour * 3600 + m.minute * 60 + m.second

/-- A year has four digits, or a sign and as many as it needs. -/
def yearChars (year : Nat) : List Char :=
  if year ≤ 9999 then paddedChars 4 year else '+' :: natChars year

/-- The text of a moment by RFC 3339. -/
def Moment.chars (m : Moment) : List Char :=
  yearChars m.date.year ++ ['-'] ++ paddedChars 2 m.date.month ++ ['-'] ++ paddedChars 2 m.date.day
    ++ ['T'] ++ paddedChars 2 m.hour ++ [':'] ++ paddedChars 2 m.minute ++ [':']
    ++ paddedChars 2 m.second ++ ['+', '0', '0', ':', '0', '0']

/-- The text of a moment by RFC 3339. -/
def Moment.text (m : Moment) : String :=
  String.ofList m.chars

end TunerControl.Calendar
