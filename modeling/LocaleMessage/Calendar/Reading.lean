import LocaleMessage.Binary64.Reading
import LocaleMessage.Calendar.DateTime
import LocaleMessage.Text.Blank

/-!
Reading dates and date-times from text.

White space may stand before each number. A year is four digits at most, or any number of them
behind a sign; the other numbers have one or two digits.
-/

namespace LocaleMessage.Calendar

/-- Reads from the front of the text that is left. -/
abbrev Reader := StateT (List Char) Option

namespace Reader

/-- Reads one character, which has to be `c`. -/
def char (c : Char) : Reader Unit
  | d :: rest => if d = c then some ((), rest) else none
  | [] => none

/-- Reads over white space. -/
def spaces : Reader Unit := fun text =>
  some ((), Text.trimLeft text)

/-- Reads at least one digit and at most `most`. -/
def digits (most : Nat) : Reader (List Char) := fun text =>
  let run := (text.takeWhile Char.isDigit).take most
  if run.isEmpty then none else some (run, text.drop run.length)

/-- Reads the number that one or two digits stand for. -/
def twoDigits : Reader Nat := do
  spaces
  return digitsValue (← digits 2)

/-- Reads all digits that follow. -/
def allDigits : Reader (List Char) := fun text =>
  digits text.length text

/-- Reads the year. -/
def year : Reader Int := do
  spaces
  match ← get with
  | '-' :: _ =>
    char '-'
    return -(digitsValue (← allDigits))
  | '+' :: _ =>
    char '+'
    return digitsValue (← allDigits)
  | _ => return digitsValue (← digits 4)

/-- Reads a date as `yyyy-mm-dd`. -/
def date : Reader Date := do
  let y ← year
  char '-'
  let m ← twoDigits
  char '-'
  let d ← twoDigits
  fun text => (Date.of? y m d).map (·, text)

/-- The nanoseconds that the digits of a fraction stand for. Digits beyond the ninth do not
count. -/
def nanoseconds (digits : List Char) : Nat :=
  let kept := digits.take 9
  digitsValue kept * Nat.pow 10 (9 - kept.length)

/-- Reads a fraction of a second where there is a point. -/
def fraction : Reader Nat := do
  match ← get with
  | '.' :: _ =>
    char '.'
    return nanoseconds (← allDigits)
  | _ => return 0

/-- Reads a time as `hh:mm:ss`, with or without a fraction. -/
def time (withFraction : Bool) : Reader TimeOfDay := do
  let h ← twoDigits
  char ':'
  let m ← twoDigits
  char ':'
  let s ← twoDigits
  let n ← if withFraction then fraction else pure 0
  fun text => (TimeOfDay.ofClock? h m s n).map (·, text)

/-- Reads a date and a time with `between` between them. -/
def dateTime (between : Reader Unit) (withFraction : Bool) : Reader DateTime := do
  let d ← date
  between
  let t ← time withFraction
  return ⟨d, t⟩

/-- What a reader makes of a whole text. -/
def whole? {α : Type} (reader : Reader α) (text : List Char) : Option α :=
  match reader text with
  | some (a, []) => some a
  | _ => none

end Reader

end Calendar

open Calendar (Reader)

/-- Reads a date, which stands for its midnight. -/
def DateTime.ofDateText? (text : List Char) : Option DateTime :=
  (Reader.whole? Reader.date text).map (⟨·, .midnight⟩)

/-- Reads a date-time with a `T` before the time. -/
def DateTime.ofMarkedText? (withFraction : Bool) (text : List Char) : Option DateTime :=
  Reader.whole? (Reader.dateTime (Reader.char 'T') withFraction) text

/-- Reads a date-time with white space before the time, or nothing at all. -/
def DateTime.ofSpacedText? (text : List Char) : Option DateTime :=
  Reader.whole? (Reader.dateTime Reader.spaces true) text

/-- Reads a date-time in either form, or a date. -/
def DateTime.ofText? (text : List Char) : Option DateTime :=
  (ofMarkedText? true text).or ((ofSpacedText? text).or (ofDateText? text))

end LocaleMessage
