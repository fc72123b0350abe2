import LocaleMessage.Binary64.Reading
import LocaleMessage.Binary64.Shortest

/-!
Numbers as arguments give them: integers that stay exact, and floating-point numbers.
-/

namespace LocaleMessage

/-- The integer as a word of 64 bits, if it fits. -/
def int64? (i : Int) : Option Int64 :=
  if -9223372036854775808 ≤ i ∧ i ≤ 9223372036854775807 then some (Int64.ofInt i) else none

/-- The word nearest to the integer. -/
def int64Nearest (i : Int) : Int64 :=
  if i < -9223372036854775808 then Int64.minValue
  else if 9223372036854775807 < i then Int64.maxValue
  else Int64.ofInt i

/-- An integer in decimal digits, with a minus in front if it is negative. -/
def intText (i : Int) : String :=
  String.ofList (if i < 0 then '-' :: decimalDigits i.natAbs else decimalDigits i.natAbs)

inductive Number where
  | integer (i : Int64)
  | decimal (f : Binary64)
deriving DecidableEq

namespace Number

def text : Number → String
  | integer i => intText i.toInt
  | decimal f => f.text

def toBinary64 : Number → Binary64
  | integer i => Binary64.ofInt i.toInt
  | decimal f => f

/-- The number less an offset. An integer that would leave its range becomes a floating-point
number first. -/
def minus (n : Number) (offset : UInt32) : Number :=
  match n with
  | integer i =>
    match int64? (i.toInt - offset.toNat) with
    | some j => integer j
    | none => decimal ((Binary64.ofInt i.toInt).minus offset.toNat)
  | decimal f => decimal (f.minus offset.toNat)

/-- The integer that the number is. The float just above the greatest integer counts as that
integer. -/
def toInteger? : Number → Option Int64
  | integer i => some i
  | decimal f =>
    match f.toInt? with
    | some i =>
      if -9223372036854775808 ≤ i ∧ i ≤ 9223372036854775808 then some (int64Nearest i) else none
    | none => none

/-- Whether the sign is set on something other than zero. -/
def isNegative : Number → Bool
  | integer i => i.toInt < 0
  | decimal f => f.signBit && !f.isZero

/-- Reads an integer: digits behind at most one sign, within the range. -/
def integerOfText? (text : String) : Option Int64 :=
  let (negative, digits) := takeSign text.toList
  if digits.isEmpty || !digits.all Char.isDigit then none
  else if negative then int64? (-(digitsValue digits : Int))
  else int64? (digitsValue digits)

/-- Reads an integer, or else a floating-point number that is finite. -/
def ofText? (text : String) : Option Number :=
  match integerOfText? text with
  | some i => some (integer i)
  | none =>
    match Binary64.ofText? text with
    | some f => if f.isFinite then some (decimal f) else none
    | none => none

end Number

end LocaleMessage
