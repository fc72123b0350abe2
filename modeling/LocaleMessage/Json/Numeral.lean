import LocaleMessage.Binary64.Basic

/-!
How great a number in a JSON text may be. What counts is an integer of 64 bits and a power of ten,
both of them as floating-point numbers, and whether their product is still one.
-/

namespace LocaleMessage.Json

/-- What the integer kept of a number's digits stays below. -/
def coefficientLimit : Nat := 18446744073709551616

/-- Goes on with an integer by the digits behind it as long as it stays below the limit, and gives
the digits for which there was no room as well. -/
def takeDigits (n : Nat) : List Char → Nat × List Char
  | [] => (n, [])
  | digit :: rest =>
    let longer := 10 * n + digitsValue [digit]
    if longer < coefficientLimit then takeDigits longer rest else (n, digit :: rest)

/-- What is kept of the digits on both sides of the point and an exponent. A digit without room
counts as a power of ten in front of the point and is dropped behind it. -/
def keptDecimal (whole fraction : List Char) (exponent : Int) : Decimal :=
  let (n, tens) := takeDigits 0 whole
  let (n, dropped) := takeDigits n fraction
  ⟨n, exponent + tens.length - (fraction.length - dropped.length : Nat)⟩

/-- Whether the coefficient and the power of ten, each of them rounded, have a product that is not
beyond all floating-point numbers. -/
def isInRange (d : Decimal) : Bool :=
  d.coefficient = 0 ||
    match Magnitude.ofDecimal? ⟨d.coefficient, 0⟩, Magnitude.ofDecimal? ⟨1, d.exponent⟩ with
    | some x, some y => (Magnitude.ofRat? (x.value * y.value)).isSome
    | _, _ => false

end LocaleMessage.Json
