import LocaleMessage.Number

/-!
Numbers in English words, and the endings of English ordinals.
-/

namespace LocaleMessage.NumberFormat.English

def smallWords : List String :=
  ["zero", "one", "two", "three", "four", "five", "six", "seven", "eight", "nine", "ten",
    "eleven", "twelve", "thirteen", "fourteen", "fifteen", "sixteen", "seventeen", "eighteen",
    "nineteen"]

/-- The word for a number below twenty. -/
def small (n : Nat) : String :=
  smallWords.getD n ""

/-- The words for the tens, from twenty on. -/
def tensWords : List String :=
  ["twenty", "thirty", "forty", "fifty", "sixty", "seventy", "eighty", "ninety"]

/-- The word for a number of tens from two to nine. -/
def tens (n : Nat) : String :=
  tensWords.getD (n - 2) ""

/-- The word for a number below a hundred. -/
def belowHundred (n : Nat) : String :=
  if n < 20 then small n
  else if n % 10 = 0 then tens (n / 10)
  else tens (n / 10) ++ "-" ++ small (n % 10)

/-- The words for a number below a thousand, none for zero. -/
def belowThousand (n : Nat) : List String :=
  (if n < 100 then [] else [small (n / 100), "hundred"]) ++
    if n % 100 = 0 then [] else [belowHundred (n % 100)]

/-- The powers of a thousand that have names, greatest first. -/
def scales : List (Nat × String) :=
  [(1000000000000000000, "quintillion"), (1000000000000000, "quadrillion"),
    (1000000000000, "trillion"), (1000000000, "billion"), (1000000, "million"),
    (1000, "thousand")]

/-- The words for a number counted in the scales and what is left below them, none for zero. -/
def scaled : List (Nat × String) → Nat → List String
  | [], n => belowThousand n
  | (scale, name) :: rest, n =>
    if n < scale then scaled rest n
    else belowThousand (n / scale) ++ name :: scaled rest (n % scale)

/-- The words for a number below a thousand quintillions. -/
def cardinal (n : Nat) : String :=
  if n = 0 then small 0 else " ".intercalate (scaled scales n)

/-- The words for the digits of a fraction, one for each. -/
def fractionWords (digits : List Char) : List String :=
  digits.map fun c => small (c.toNat - '0'.toNat)

/-- The words for a decimal. An integer part of more than 64 bits stays in digits. -/
def decimal (d : Decimal) : String :=
  let integer := if d.integerPart < UInt64.size then cardinal d.integerPart
    else String.ofList (decimalDigits d.integerPart)
  if d.fractionDigits.isEmpty then integer
  else " ".intercalate (integer :: "point" :: fractionWords d.fractionDigits)

/-- A number in words. Values that are not finite keep their names. -/
def spelled (n : Number) : String :=
  let signed (words : String) : String := if n.isNegative then "minus " ++ words else words
  match n with
  | .integer i => signed (cardinal i.toInt.natAbs)
  | .decimal (.finite _ x) => signed (decimal x.shortest)
  | .decimal f => f.text

/-- What follows the digits of a position. -/
def ordinalSuffix (n : Nat) : String :=
  if n % 100 = 11 ∨ n % 100 = 12 ∨ n % 100 = 13 then "th"
  else if n % 10 = 1 then "st"
  else if n % 10 = 2 then "nd"
  else if n % 10 = 3 then "rd"
  else "th"

end LocaleMessage.NumberFormat.English
