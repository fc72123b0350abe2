import LocaleMessage.Calendar.DateTime

/-!
Layouts of date-times as sequences of directives: text that is copied, and fields of the
date-time that are written.
-/

namespace LocaleMessage.Calendar

/-- What fills a number up to its width. -/
inductive Padding where
  | none
  | zero
  | space
deriving DecidableEq, Repr

/-- A field that is written in digits. -/
inductive Field where
  | year
  | century
  | yearOfCentury
  | weekYear
  | weekYearOfCentury
  | quarter
  | month
  | day
  | dayOfYear
  | weekFromSunday
  | weekFromMonday
  | week
  /-- Zero on Sundays. -/
  | daysFromSunday
  /-- One on Mondays. -/
  | dayOfWeek
  | hour
  | hourOfHalfDay
  | minute
  | second
  | nanosecond
  | timestamp
deriving DecidableEq, Repr

/-- A field that is written in English letters. -/
inductive Name where
  | shortMonth
  | longMonth
  | shortWeekday
  | longWeekday
  | lowerHalfDay
  | upperHalfDay
deriving DecidableEq, Repr

inductive Directive where
  | text (copied : List Char)
  | field (f : Field) (padding : Padding)
  | name (n : Name)
  /-- The fraction of a second behind a point, in as many digits as it needs. -/
  | fraction
  /-- The first digits of the fraction of a second. -/
  | fractionDigits (digits : Nat) (point : Bool)
deriving DecidableEq, Repr

abbrev Layout := List Directive

/-- Digits with padding in front up to a width, behind a sign if there is one. Zeros stand
between the sign and the digits, spaces before both. -/
def padded (padding : Padding) (width : Nat) (sign digits : List Char) : List Char :=
  let gap := width - (sign.length + digits.length)
  match padding with
  | .none => sign ++ digits
  | .zero => sign ++ List.replicate gap '0' ++ digits
  | .space => List.replicate gap ' ' ++ sign ++ digits

/-- A number that is negative behind its sign. -/
def paddedInt (padding : Padding) (width : Nat) (n : Int) : List Char :=
  padded padding width (if n < 0 then ['-'] else []) (decimalDigits n.natAbs)

/-- A year in four digits, and behind a sign if it has more or is negative. -/
def paddedYear (padding : Padding) (year : Int) : List Char :=
  if 0 ≤ year ∧ year ≤ 9999 then paddedInt padding 4 year
  else padded padding 5 [if year < 0 then '-' else '+'] (decimalDigits year.natAbs)

/-- A number in two characters. Tens beyond the ninth are written by the characters that follow
the digit nine. -/
def paddedTwo (padding : Padding) (n : Nat) : List Char :=
  let tens :=
    if n / 10 = 0 then
      match padding with
      | .none => []
      | .zero => ['0']
      | .space => [' ']
    else [Char.ofNat ('0'.toNat + n / 10)]
  tens ++ decimalDigits (n % 10)

/-- The hour on a clock of twelve hours. -/
def hourOfHalfDay (hour : Nat) : Nat :=
  if hour % 12 = 0 then 12 else hour % 12

/-- Writes a field. Centuries are counted in eight bits. -/
def Field.render (padding : Padding) (dt : DateTime) : Field → List Char
  | year => paddedYear padding dt.date.year
  | century => paddedTwo padding (dt.date.year / 100 % 256).toNat
  | yearOfCentury => paddedTwo padding (dt.date.year % 100).toNat
  | weekYear => paddedYear padding dt.date.weekYear
  | weekYearOfCentury => paddedTwo padding (dt.date.weekYear % 100).toNat
  | quarter => decimalDigits dt.date.quarter
  | month => paddedTwo padding dt.date.month
  | day => paddedTwo padding dt.date.day
  | dayOfYear => paddedInt padding 3 (dt.date.dayOfYear + 1 : Nat)
  | weekFromSunday => paddedTwo padding dt.date.weekFromSunday
  | weekFromMonday => paddedTwo padding dt.date.weekFromMonday
  | week => paddedTwo padding dt.date.week
  | daysFromSunday => decimalDigits ((dt.date.weekday + 1) % 7)
  | dayOfWeek => decimalDigits (dt.date.weekday + 1)
  | hour => paddedTwo padding dt.time.hour
  | hourOfHalfDay => paddedTwo padding (Calendar.hourOfHalfDay dt.time.hour)
  | minute => paddedTwo padding dt.time.minute
  | second => paddedTwo padding dt.time.shownSecond
  | nanosecond => paddedInt padding 9 dt.time.shownNanosecond
  | timestamp => paddedInt padding 9 dt.timestamp

def monthNames : List String :=
  ["January", "February", "March", "April", "May", "June", "July", "August", "September",
    "October", "November", "December"]

def weekdayNames : List String :=
  ["Monday", "Tuesday", "Wednesday", "Thursday", "Friday", "Saturday", "Sunday"]

/-- Writes a name. Short names are the first three letters of long ones. -/
def Name.render (dt : DateTime) : Name → List Char
  | shortMonth => ((monthNames.getD (dt.date.month - 1) "").toList).take 3
  | longMonth => (monthNames.getD (dt.date.month - 1) "").toList
  | shortWeekday => ((weekdayNames.getD dt.date.weekday "").toList).take 3
  | longWeekday => (weekdayNames.getD dt.date.weekday "").toList
  | lowerHalfDay => if dt.time.hour < 12 then ['a', 'm'] else ['p', 'm']
  | upperHalfDay => if dt.time.hour < 12 then ['A', 'M'] else ['P', 'M']

def Directive.render (dt : DateTime) : Directive → List Char
  | text copied => copied
  | field f padding => f.render padding dt
  | name n => n.render dt
  | fraction => dt.time.fractionText
  | fractionDigits digits point =>
    (if point then ['.'] else []) ++ (paddedDigits 9 dt.time.shownNanosecond).take digits

/-- Writes all directives in order. -/
def Layout.render (layout : Layout) (dt : DateTime) : List Char :=
  layout.flatMap (Directive.render dt)

end LocaleMessage.Calendar
