import LocaleMessage.DateFormat.Conventions
import LocaleMessage.DateFormat.Runs

/-!
Skeletons: texts of letters that ask for fields of a date-time and leave their order and
separators to the locale.
-/

namespace LocaleMessage.DateFormat

open Calendar (Directive Layout)

/-- Whether the text is a skeleton. -/
def isSkeleton (text : List Char) : Bool :=
  !text.isEmpty && text.all "GyMLdEcHhjKkmsa".toList.contains

/-- The fields that a skeleton asks for. Years and weekdays are asked for in a short or a long
form, months in a width, and hours on a clock of twelve hours or not. -/
structure Skeleton where
  shortYear : Option Bool
  monthWidth : Option Nat
  day : Bool
  longWeekday : Option Bool
  twelveHour : Option Bool
  minute : Bool
  second : Bool
deriving DecidableEq, Repr

namespace Skeleton

def empty : Skeleton := ⟨none, none, false, none, none, false, false⟩

/-- Takes a run of letters into account. The last run for a field decides its form. -/
def add (conventions : Conventions) (s : Skeleton) (run : Char × Nat) : Skeleton :=
  let (c, width) := run
  if c = 'y' then { s with shortYear := some (width = 2) }
  else if c = 'M' ∨ c = 'L' then { s with monthWidth := some width }
  else if c = 'd' then { s with day := true }
  else if c = 'E' ∨ c = 'c' then { s with longWeekday := some (4 ≤ width) }
  else if c = 'h' ∨ c = 'K' then { s with twelveHour := some true }
  else if c = 'H' ∨ c = 'k' then { s with twelveHour := some false }
  else if c = 'j' then { s with twelveHour := some conventions.twelveHour }
  else if c = 'm' then { s with minute := true }
  else if c = 's' then { s with second := true }
  else s

/-- The fields that a text asks for. -/
def ofText (conventions : Conventions) (text : List Char) : Skeleton :=
  (runs text).foldl (add conventions) empty

def yearField (s : Skeleton) : Option Directive :=
  s.shortYear.map fun short => wide (if short then .yearOfCentury else .year)

def dayField (s : Skeleton) : Option Directive :=
  if s.day then some (narrow .day) else none

/-- Whether the month is written by name. -/
def namesMonth (s : Skeleton) : Bool :=
  s.monthWidth.any (3 ≤ ·)

def monthField (s : Skeleton) : Option Directive :=
  s.monthWidth.map fun width =>
    if width = 1 then narrow .month
    else if width = 2 then wide .month
    else if width = 3 then .name .shortMonth
    else .name .longMonth

def weekdayField (s : Skeleton) : Option Directive :=
  s.longWeekday.map fun long => .name (if long then .longWeekday else .shortWeekday)

def hourField (s : Skeleton) : Option Directive :=
  s.twelveHour.map fun twelve => if twelve then narrow .hourOfHalfDay else wide .hour

/-- The layouts that are not empty, with a text between every two. -/
def joined (separator : String) (layouts : List Layout) : Layout :=
  ((layouts.filter (!·.isEmpty)).intersperse [copied separator]).flatten

/-- The day, month and year in the order of the locale. -/
def dateLayout (order : DateOrder) (s : Skeleton) : Layout :=
  let year := s.yearField.toList
  let month := s.monthField.toList
  let day := s.dayField.toList
  match order with
  | .monthDayYear =>
    if s.namesMonth then
      joined (if s.day then ", " else " ") [joined " " [month, day], year]
    else joined "/" [month, day, year]
  | .dayMonthYear => joined (if s.namesMonth then " " else "/") [day, month, year]
  | .yearMonthDay => joined (if s.namesMonth then " " else "/") [year, month, day]

/-- The hour, minute and second, and the half of the day on a clock of twelve hours. -/
def timeLayout (s : Skeleton) : Layout :=
  let minute := if s.minute then [wide .minute] else []
  let second := if s.second then [wide .second] else []
  let half := if s.twelveHour = some true then [Directive.name .upperHalfDay] else []
  joined " " [joined ":" [s.hourField.toList, minute, second], half]

/-- The layout of all fields that are asked for. -/
def layout (conventions : Conventions) (s : Skeleton) : Layout :=
  joined ", " [s.weekdayField.toList, s.dateLayout conventions.order, s.timeLayout]

end Skeleton

end LocaleMessage.DateFormat
