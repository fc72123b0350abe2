import LocaleMessage.Calendar.Directive
import LocaleMessage.DateFormat.Style
import LocaleMessage.Locale.Subtags

/-!
How dates and times are usually written in a locale.
-/

namespace LocaleMessage.DateFormat

open Calendar (Directive Layout)

/-- The order of the fields of a date. -/
inductive DateOrder where
  | monthDayYear
  | dayMonthYear
  | yearMonthDay
deriving DecidableEq, Repr

structure Conventions where
  order : DateOrder
  twelveHour : Bool
deriving DecidableEq, Repr

/-- The conventions of a locale. In English they differ by region, and a tag without a region
counts as from the United States. -/
def Conventions.ofLocale (locale : String) : Conventions :=
  let language := Locale.language locale
  let region := (Locale.region? locale).getD "US"
  { order :=
      if language = "en" ∧ region ∈ ["US", "PH"] then .monthDayYear
      else if language ∈ ["ja", "zh", "ko", "hu", "lt"] then .yearMonthDay
      else .dayMonthYear
    twelveHour :=
      language = "en" ∧ region ∈ ["US", "CA", "AU", "NZ", "PH", "IN"] ∨ language ∈ ["ko", "hi"] }

/-- A field in digits with zeros in front. -/
def wide (f : Calendar.Field) : Directive := .field f .zero

/-- A field in digits with nothing in front. -/
def narrow (f : Calendar.Field) : Directive := .field f .none

def copied (text : String) : Directive := .text text.toList

/-- The layout of a date in a style that is not custom. -/
def dateLayout (order : DateOrder) (style : DateStyle) : Layout :=
  match style, order with
  | .short, .monthDayYear =>
    [narrow .month, copied "/", narrow .day, copied "/", wide .yearOfCentury]
  | .short, .dayMonthYear => [wide .day, copied "/", wide .month, copied "/", wide .year]
  | .short, .yearMonthDay => [wide .year, copied "/", wide .month, copied "/", wide .day]
  | .long, .monthDayYear =>
    [.name .longMonth, copied " ", narrow .day, copied ", ", wide .year]
  | .long, .dayMonthYear => [narrow .day, copied " ", .name .longMonth, copied " ", wide .year]
  | .long, .yearMonthDay => [wide .year, copied " ", .name .longMonth, copied " ", narrow .day]
  | .full, .monthDayYear =>
    [.name .longWeekday, copied ", ", .name .longMonth, copied " ", narrow .day, copied ", ",
      wide .year]
  | .full, .dayMonthYear =>
    [.name .longWeekday, copied " ", narrow .day, copied " ", .name .longMonth, copied " ",
      wide .year]
  | .full, .yearMonthDay =>
    [wide .year, copied " ", .name .longMonth, copied " ", narrow .day, copied ", ",
      .name .longWeekday]
  | _, .monthDayYear =>
    [.name .shortMonth, copied " ", narrow .day, copied ", ", wide .year]
  | _, .dayMonthYear => [narrow .day, copied " ", .name .shortMonth, copied " ", wide .year]
  | _, .yearMonthDay => [wide .year, copied " ", .name .shortMonth, copied " ", narrow .day]

/-- The layout of a time in a style that is not custom. Only the short style leaves out the
seconds. -/
def timeLayout (twelveHour : Bool) (style : DateStyle) : Layout :=
  let seconds := if style = .short then [] else [copied ":", wide .second]
  if twelveHour then
    [narrow .hourOfHalfDay, copied ":", wide .minute] ++ seconds ++
      [copied " ", .name .upperHalfDay]
  else [wide .hour, copied ":", wide .minute] ++ seconds

/-- The layout of a part of a date-time in a style that is not custom. -/
def usualLayout (conventions : Conventions) (part : DatePart) (style : DateStyle) :
    Layout :=
  match part with
  | .date => dateLayout conventions.order style
  | .time => timeLayout conventions.twelveHour style

end LocaleMessage.DateFormat
