import LocaleMessage.Binary64.Fixed
import LocaleMessage.Locale.Subtags
import LocaleMessage.Number
import LocaleMessage.NumberFormat.Layout

/-!
Numbers in decimal digits, laid out as a layout asks and separated as a language does.
-/

namespace LocaleMessage.NumberFormat

/-- What a language writes between the integer and the fraction, and between groups of three
digits. -/
structure Separators where
  decimal : List Char
  group : List Char
deriving DecidableEq, Repr

/-- Languages with a comma before the fraction and points between the groups. -/
def commaLanguages : List String :=
  ["de", "es", "it", "pt", "nl", "da", "sv", "no", "fi", "pl", "cs", "sk", "hu", "ro", "bg",
    "el", "ru", "uk", "tr", "id", "vi"]

/-- The separators of a language. French puts a narrow space that does not break between the
groups. -/
def separators (language : String) : Separators :=
  if language ∈ commaLanguages then ⟨[','], ['.']⟩
  else if language = "fr" then ⟨[','], ['\u202f']⟩
  else ⟨['.'], [',']⟩

/-- Puts the separator between groups of three digits, counted from the right. -/
def grouped (separator : List Char) : List Char → List Char
  | [] => []
  | c :: cs =>
    if cs.length % 3 = 0 && !cs.isEmpty then c :: (separator ++ grouped separator cs)
    else c :: grouped separator cs

/-- A number without its sign, before it is laid out. A value that is not finite has its name in
the place of the integer digits. -/
structure Digits where
  integer : List Char
  fraction : List Char
deriving DecidableEq, Repr

/-- The digits of a number rounded to a number of places. Integers have no fraction. -/
def Digits.ofNumber (places : Nat) : Number → Digits
  | .integer i => ⟨decimalDigits i.toInt.natAbs, []⟩
  | .decimal (.nan _) => ⟨"NaN".toList, []⟩
  | .decimal (.infinite _) => ⟨"inf".toList, []⟩
  | .decimal (.finite _ x) =>
    let units := x.toPlaces places
    let scale := Nat.pow 10 places
    ⟨decimalDigits (units / scale),
      if places = 0 then [] else paddedDigits places (units % scale)⟩

/-- Drops the zeros at the end of a fraction beyond the least number of digits, and adds zeros
up to that number. -/
def fitFraction (least : Nat) (fraction : List Char) : List Char :=
  let spare := ((fraction.drop least).reverse.dropWhile (· = '0')).reverse
  fraction.take least ++ spare ++ List.replicate (least - fraction.length) '0'

/-- The digits of a number in a layout. -/
def Digits.fitted (layout : Layout) (n : Number) : Digits :=
  let digits := ofNumber layout.maxFraction n
  ⟨digits.integer, fitFraction layout.minFraction digits.fraction⟩

/-- Whether all digits are zero. -/
def Digits.isZero (digits : Digits) : Bool :=
  (digits.integer ++ digits.fraction).all (· = '0')

/-- A hundred times a number. An integer that would leave its range becomes a floating-point
number first. -/
def timesHundred : Number → Number
  | .integer i =>
    match int64? (i.toInt * 100) with
    | some j => .integer j
    | none => .decimal (Binary64.ofInt i.toInt).timesHundred
  | .decimal f => .decimal f.timesHundred

/-- Writes digits behind a sign. -/
def Digits.render (separators : Separators) (layout : Layout) (negative : Bool)
    (digits : Digits) : List Char :=
  (if negative then ['-'] else []) ++
    (if layout.grouping then grouped separators.group digits.integer else digits.integer) ++
    (if digits.fraction.isEmpty then [] else separators.decimal ++ digits.fraction) ++
    (if layout.percent then ['%'] else [])

/-- A number in decimal digits. What is written as zero has no sign. -/
def decimal (layout : Layout) (locale : String) (n : Number) : List Char :=
  let n := if layout.percent then timesHundred n else n
  let digits := Digits.fitted layout n
  digits.render (separators (Locale.language locale)) layout (n.isNegative && !digits.isZero)

end LocaleMessage.NumberFormat
