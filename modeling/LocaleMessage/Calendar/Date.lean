/-!
Dates of the Gregorian calendar, extended to all years before it was made.

Days are also counted: the first of January of the year one is day zero, a Monday.
-/

namespace LocaleMessage

namespace Calendar

def isLeap (year : Int) : Bool :=
  year % 4 = 0 && (year % 100 ≠ 0 || year % 400 = 0)

/-- The lengths of the months of a year. -/
def monthLengths (year : Int) : List Nat :=
  [31, if isLeap year then 29 else 28, 31, 30, 31, 30, 31, 31, 30, 31, 30, 31]

/-- The length of a month, counted from one. -/
def monthLength (year : Int) (month : Nat) : Nat :=
  (monthLengths year).getD (month - 1) 0

/-- The number of the first day of a year. -/
def firstDay (year : Int) : Int :=
  let before := year - 1
  365 * before + before / 4 - before / 100 + before / 400

/-- The year that a day lies in: four hundred years, hundreds, fours and single years are taken
off in turn, where the last hundred and the last single year are a day longer. -/
def yearOfDay (day : Int) : Int :=
  let inEra := (day % 146097).toNat
  let centuries := min 3 (inEra / 36524)
  let inCentury := inEra - 36524 * centuries
  let fours := inCentury / 1461
  let inFour := inCentury % 1461
  400 * (day / 146097) + 100 * centuries + 4 * fours + min 3 (inFour / 365) + 1

/-- The month and the day in it, from the days that went before and the lengths of the months
to come. -/
def monthAndDay (month : Nat) (before : Nat) : List Nat → Nat × Nat
  | [] => (month, before + 1)
  | length :: rest =>
    if before < length then (month, before + 1) else monthAndDay (month + 1) (before - length) rest

end Calendar

def Date.Valid (year : Int) (month day : Nat) : Prop :=
  -262143 ≤ year ∧ year ≤ 262142 ∧ 1 ≤ month ∧ month ≤ 12 ∧
    1 ≤ day ∧ day ≤ Calendar.monthLength year month

instance (year : Int) (month day : Nat) : Decidable (Date.Valid year month day) :=
  inferInstanceAs (Decidable (_ ∧ _))

structure Date where
  year : Int
  month : Nat
  day : Nat
  valid : Date.Valid year month day
deriving DecidableEq

namespace Date

/-- The date, if there is such a day and its year is not too far away. -/
def of? (year : Int) (month day : Nat) : Option Date :=
  if h : Valid year month day then some ⟨year, month, day, h⟩ else none

/-- How many days of the year went before. -/
def dayOfYear (d : Date) : Nat :=
  ((Calendar.monthLengths d.year).take (d.month - 1)).foldl (· + ·) 0 + (d.day - 1)

/-- The number of the day. -/
def number (d : Date) : Int :=
  Calendar.firstDay d.year + d.dayOfYear

/-- The date of a numbered day. -/
def ofNumber? (day : Int) : Option Date :=
  let year := Calendar.yearOfDay day
  let (month, inMonth) :=
    Calendar.monthAndDay 1 (day - Calendar.firstDay year).toNat (Calendar.monthLengths year)
  of? year month inMonth

/-- The day of the week, zero on Mondays. -/
def weekday (d : Date) : Nat :=
  (d.number % 7).toNat

/-- How many Sundays of the year have come up to the day. -/
def weekFromSunday (d : Date) : Nat :=
  (d.dayOfYear + 7 - (d.weekday + 1) % 7) / 7

/-- How many Mondays of the year have come up to the day. -/
def weekFromMonday (d : Date) : Nat :=
  (d.dayOfYear + 7 - d.weekday) / 7

/-- The number of the Thursday of the week, which tells to what year the week belongs. -/
def thursday (d : Date) : Int :=
  d.number - d.weekday + 3

/-- The year that the week belongs to. -/
def weekYear (d : Date) : Int :=
  Calendar.yearOfDay d.thursday

/-- The number of the week in its year, counted from one. -/
def week (d : Date) : Nat :=
  ((d.thursday - Calendar.firstDay d.weekYear) / 7).toNat + 1

/-- The quarter of the year, counted from one. -/
def quarter (d : Date) : Nat :=
  (d.month + 2) / 3

end Date

end LocaleMessage
