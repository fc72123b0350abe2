import LocaleMessage.Calendar.Date
import LocaleMessage.Decimal

/-!
Times of day and date-times on a clock without a time zone, and their text.
-/

namespace LocaleMessage

/-- A time of day. A leap second is the second before it with a thousand million nanoseconds or
more. -/
structure TimeOfDay where
  hour : Nat
  minute : Nat
  second : Nat
  nanosecond : Nat
  valid : hour < 24 ∧ minute < 60 ∧ second < 60 ∧ nanosecond < 2000000000
deriving DecidableEq

namespace TimeOfDay

def midnight : TimeOfDay := ⟨0, 0, 0, 0, by decide⟩

/-- The time on a clock that may show the sixtieth second, if it shows a time. -/
def ofClock? (hour minute second nanosecond : Nat) : Option TimeOfDay :=
  let (second, nanosecond) :=
    if second = 60 then (59, nanosecond + 1000000000) else (second, nanosecond)
  if h : hour < 24 ∧ minute < 60 ∧ second < 60 ∧ nanosecond < 2000000000 then
    some ⟨hour, minute, second, nanosecond, h⟩
  else none

/-- The second that a clock shows, which is the sixtieth in a leap second. -/
def shownSecond (t : TimeOfDay) : Nat :=
  t.second + t.nanosecond / 1000000000

/-- The nanoseconds that a clock shows. -/
def shownNanosecond (t : TimeOfDay) : Nat :=
  t.nanosecond % 1000000000

/-- The seconds since midnight. -/
def seconds (t : TimeOfDay) : Nat :=
  3600 * t.hour + 60 * t.minute + t.second

/-- The time some seconds after midnight on a day of no leap second, with the given
nanoseconds. -/
def ofSeconds? (seconds nanosecond : Nat) : Option TimeOfDay :=
  ofClock? (seconds / 3600) (seconds % 3600 / 60) (seconds % 60) nanosecond

/-- The fraction of a second in as many groups of three digits as it needs. -/
def fractionDigits (t : TimeOfDay) : List Char :=
  let n := t.shownNanosecond
  if n = 0 then []
  else if n % 1000000 = 0 then paddedDigits 3 (n / 1000000)
  else if n % 1000 = 0 then paddedDigits 6 (n / 1000)
  else paddedDigits 9 n

/-- The fraction of a second behind a point, nothing where there is none. -/
def fractionText (t : TimeOfDay) : List Char :=
  if t.fractionDigits.isEmpty then [] else '.' :: t.fractionDigits

/-- The time as `hh:mm:ss` with a fraction where there is one. -/
def text (t : TimeOfDay) : List Char :=
  paddedDigits 2 t.hour ++ ':' :: (paddedDigits 2 t.minute ++
    ':' :: (paddedDigits 2 t.shownSecond ++ t.fractionText))

end TimeOfDay

/-- A year in four digits, or behind a sign where it has more or is negative. -/
def yearText (year : Int) : List Char :=
  if 0 ≤ year ∧ year ≤ 9999 then paddedDigits 4 year.natAbs
  else (if year < 0 then '-' else '+') :: paddedDigits 4 year.natAbs

/-- The date as `yyyy-mm-dd`. -/
def Date.text (d : Date) : List Char :=
  yearText d.year ++ '-' :: (paddedDigits 2 d.month ++ '-' :: paddedDigits 2 d.day)

structure DateTime where
  date : Date
  time : TimeOfDay
deriving DecidableEq

namespace DateTime

/-- The date and the time with a space between them. -/
def text (dt : DateTime) : List Char :=
  dt.date.text ++ ' ' :: dt.time.text

/-- The number of the day from which moments are counted. -/
def epochDay : Int := 719162

/-- The seconds since the beginning of 1970. -/
def timestamp (dt : DateTime) : Int :=
  (dt.date.number - epochDay) * 86400 + dt.time.seconds

/-- The moment some seconds after the beginning of 1970, with the given nanoseconds. -/
def ofTimestamp? (seconds : Int) (nanosecond : Nat) : Option DateTime := do
  let date ← Date.ofNumber? (seconds / 86400 + epochDay)
  let time ← TimeOfDay.ofSeconds? (seconds % 86400).toNat nanosecond
  return ⟨date, time⟩

/-- The moment some milliseconds after the beginning of 1970. -/
def ofMilliseconds? (milliseconds : Int) : Option DateTime :=
  ofTimestamp? (milliseconds / 1000) ((milliseconds % 1000).toNat * 1000000)

/-- What a clock shows that is ahead by some seconds. A leap second stays one. -/
def ahead? (dt : DateTime) (seconds : Int) : Option DateTime :=
  ofTimestamp? (dt.timestamp + seconds) dt.time.nanosecond

end DateTime

end LocaleMessage
