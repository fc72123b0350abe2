import LocaleMessage.Calendar.Reading
import LocaleMessage.Number

/-!
The values that are bound to arguments.
-/

namespace LocaleMessage

inductive Value where
  | number (i : Int64)
  | float (f : Binary64)
  | string (text : String)
  | dateTime (dt : DateTime)
deriving DecidableEq

namespace Value

/-- An integer, or a floating-point number if it is beyond the range of integers. -/
def ofInt (i : Int) : Value :=
  match int64? i with
  | some n => number n
  | none => float (Binary64.ofInt i)

/-- A date, which stands for its midnight. -/
def ofDate (date : Date) : Value :=
  dateTime ⟨date, .midnight⟩

/-- The value as it is written where no format is asked for. -/
def text : Value → String
  | number i => intText i.toInt
  | float f => f.text
  | string text => text
  | dateTime dt => String.ofList dt.text

/-- The value as an integer, if it is one. -/
def integer? : Value → Option Int64
  | number i => some i
  | _ => none

/-- The value as a floating-point number, if it is a number. -/
def float? : Value → Option Binary64
  | float f => some f
  | number i => some (Binary64.ofInt i.toInt)
  | _ => none

/-- The value as text, if it is one. -/
def string? : Value → Option String
  | string text => some text
  | _ => none

/-- What numbers are made of: numbers, and texts that can be read as one. -/
def number? : Value → Option Number
  | number i => some (.integer i)
  | float f => some (.decimal f)
  | string text => Number.ofText? (String.ofList (Text.trim text.toList))
  | dateTime _ => none

/-- What date-times are made of: date-times, integers as milliseconds since the beginning of
1970, and texts that can be read as a date-time or a date. -/
def dateTime? : Value → Option DateTime
  | dateTime dt => some dt
  | number i => DateTime.ofMilliseconds? i.toInt
  | string text => DateTime.ofText? (Text.trim text.toList)
  | float _ => none

end Value

end LocaleMessage
