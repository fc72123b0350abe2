import LocaleMessage.Binary64.Rounding
import LocaleMessage.Decimal

/-!
Floating-point numbers of 64 bits, kept as the exact numbers that they stand for.
-/

namespace LocaleMessage

/-- What `significand · 2 ^ exponent` has to satisfy to be the one form of its value: 53 bits,
all of them used unless the exponent is the least. -/
def Magnitude.Canonical (significand : Nat) (exponent : Int) : Prop :=
  significand < 9007199254740992 ∧ -1074 ≤ exponent ∧ exponent ≤ 971 ∧
    (4503599627370496 ≤ significand ∨ exponent = -1074)

instance (significand : Nat) (exponent : Int) :
    Decidable (Magnitude.Canonical significand exponent) :=
  inferInstanceAs (Decidable (_ ∧ _))

/-- A finite number without its sign. -/
structure Magnitude where
  significand : Nat
  exponent : Int
  canonical : Magnitude.Canonical significand exponent
deriving DecidableEq

namespace Magnitude

def value (x : Magnitude) : Rat :=
  x.significand * (2 : Rat) ^ x.exponent

def zero : Magnitude := ⟨0, -1074, by decide⟩

/-- The nearest magnitude to a number that is not negative, if that is not beyond all of them. -/
def ofRat? (x : Rat) : Option Magnitude :=
  if x ≤ 0 then some zero
  else
    let (m, e) := Rounding.toBits 53 (-1074) x
    if h : Canonical m e then some ⟨m, e, h⟩ else none

/-- The nearest magnitude to a decimal. Decimals far beyond both ends are told by the number of
their digits alone. -/
def ofDecimal? (d : Decimal) : Option Magnitude :=
  let size := (decimalDigits d.coefficient).length + d.exponent
  if d.coefficient = 0 || size < -400 then some zero
  else if 400 < size then none
  else ofRat? d.value

end Magnitude

/-- A floating-point number. Zero and the values that are no number have a sign as well. -/
inductive Binary64 where
  | nan (negative : Bool)
  | infinite (negative : Bool)
  | finite (negative : Bool) (magnitude : Magnitude)
deriving DecidableEq

namespace Binary64

/-- The number with this sign and the magnitude nearest to `x`, which is infinite beyond the
greatest. -/
def ofMagnitude (negative : Bool) : Option Magnitude → Binary64
  | some x => finite negative x
  | none => infinite negative

/-- The nearest number. Zero is positive. -/
def ofRat (x : Rat) : Binary64 :=
  if x < 0 then ofMagnitude true (Magnitude.ofRat? (-x))
  else ofMagnitude false (Magnitude.ofRat? x)

/-- The nearest number to an integer. -/
def ofInt (i : Int) : Binary64 :=
  ofRat i

/-- Whether the sign is set. -/
def signBit : Binary64 → Bool
  | nan negative | infinite negative | finite negative _ => negative

/-- Whether the number is zero, of either sign. -/
def isZero : Binary64 → Bool
  | finite _ x => x.significand = 0
  | _ => false

def isFinite : Binary64 → Bool
  | finite _ _ => true
  | _ => false

/-- The exact value of a finite number. -/
def value? : Binary64 → Option Rat
  | finite negative x => some (if negative then -x.value else x.value)
  | _ => none

/-- Clears the sign. -/
def abs : Binary64 → Binary64
  | nan _ => nan false
  | infinite _ => infinite false
  | finite _ x => finite false x

/-- A hundred times the number, rounded. -/
def timesHundred : Binary64 → Binary64
  | finite negative x => ofMagnitude negative (Magnitude.ofRat? (100 * x.value))
  | x => x

/-- The number less `n`, rounded. -/
def minus (x : Binary64) (n : Nat) : Binary64 :=
  match x.value? with
  | some v => if n = 0 then x else ofRat (v - n)
  | none => x

/-- The integer that the number is, if it is one. -/
def toInt? (x : Binary64) : Option Int :=
  match x.value? with
  | some v => if v.den = 1 then some v.num else none
  | none => none

/-- The nearest integer to a finite number, a half going away from zero. -/
def round? : Binary64 → Option Int
  | finite negative x =>
    let n := Rounding.halfUp x.value
    some (if negative then -n else n)
  | _ => none

end Binary64

end LocaleMessage
