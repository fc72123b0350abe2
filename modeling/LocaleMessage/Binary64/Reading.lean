import LocaleMessage.Binary64.Basic

/-!
Reading floating-point numbers from text.
-/

namespace LocaleMessage

/-- Takes a leading sign off a text and tells whether it was a minus. -/
def takeSign : List Char → Bool × List Char
  | '-' :: rest => (true, rest)
  | '+' :: rest => (false, rest)
  | text => (false, text)

/-- Reads what `finite` makes of a decimal behind a sign, or the name of a value that is not
finite, in letters of any case. -/
def Binary64.ofTextWith? (finite : Decimal → Option Magnitude) (text : String) :
    Option Binary64 :=
  let (negative, rest) := takeSign text.toList
  let name := rest.map Char.toLower
  if name = "nan".toList then some (.nan negative)
  else if name = "inf".toList || name = "infinity".toList then some (.infinite negative)
  else (Decimal.ofText? rest).map fun d => Binary64.ofMagnitude negative (finite d)

/-- The number nearest to the one that the text gives. -/
def Binary64.ofText? (text : String) : Option Binary64 :=
  Binary64.ofTextWith? Magnitude.ofDecimal? text

/-- The nearest magnitude of a number of 32 bits to a decimal. -/
def Magnitude.ofDecimalSingle? (d : Decimal) : Option Magnitude :=
  let size := (decimalDigits d.coefficient).length + d.exponent
  if d.coefficient = 0 || size < -400 then some zero
  else if 400 < size then none
  else
    let (m, e) := Rounding.toBits 24 (-149) d.value
    if 104 < e then none else ofRat? (m * (2 : Rat) ^ e)

/-- Reads a text with the precision of a number of 32 bits. -/
def Binary64.ofSingleText? (text : String) : Option Binary64 :=
  Binary64.ofTextWith? Magnitude.ofDecimalSingle? text

end LocaleMessage
