import LocaleMessage.Number

/-!
What plural rules see of a number: its absolute value in decimal digits.
-/

namespace LocaleMessage.Plural

/-- The integer part and the visible fraction of a number. -/
structure Operands where
  integer : Nat
  /-- How many digits the fraction has. -/
  fractionLength : Nat
  /-- The digits of the fraction, as one number. -/
  fraction : Nat
deriving DecidableEq, Repr

/-- Of an integer part with more than eighteen digits the last eighteen are kept, behind a one
that tells that there are more. -/
def keepInteger (n : Nat) : Nat :=
  if n < 1000000000000000000 then n else 1000000000000000000 + n % 1000000000000000000

/-- The operands of a decimal. Fraction digits beyond the eighteenth are cut off. -/
def Operands.ofDecimal (d : Decimal) : Operands :=
  let digits := d.fractionDigits.take 18
  ⟨keepInteger d.integerPart, digits.length, digitsValue digits⟩

/-- The operands of a number, which floating-point numbers have if they are finite. The digits
of those are the digits of their shortest text. -/
def Operands.ofNumber? : Number → Option Operands
  | .integer i => some ⟨i.toInt.natAbs, 0, 0⟩
  | .decimal (.finite _ x) => some (ofDecimal x.shortest)
  | .decimal _ => none

end LocaleMessage.Plural
