/-!
Decimal numbers with finitely many digits, and their text in positional form.
-/

namespace LocaleMessage

/-- The digits of a number in base ten, at least one. -/
def decimalDigits (n : Nat) : List Char :=
  Nat.toDigits 10 n

/-- The digits of a number, with zeros in front up to the given width. -/
def paddedDigits (width n : Nat) : List Char :=
  let digits := decimalDigits n
  List.replicate (width - digits.length) '0' ++ digits

/-- The number that a run of decimal digits stands for. -/
def digitsValue (digits : List Char) : Nat :=
  digits.foldl (fun n c => 10 * n + (c.toNat - '0'.toNat)) 0

/-- The decimal `coefficient · 10 ^ exponent`. -/
structure Decimal where
  coefficient : Nat
  exponent : Int
deriving DecidableEq, Repr

namespace Decimal

def value (d : Decimal) : Rat :=
  d.coefficient * (10 : Rat) ^ d.exponent

/-- How many digits stand behind the point. -/
def fractionLength (d : Decimal) : Nat :=
  (-d.exponent).toNat

/-- The part before the point. -/
def integerPart (d : Decimal) : Nat :=
  d.coefficient * Nat.pow 10 d.exponent.toNat / Nat.pow 10 d.fractionLength

/-- The digits behind the point, as one number. -/
def fractionPart (d : Decimal) : Nat :=
  d.coefficient % Nat.pow 10 d.fractionLength

/-- The digits behind the point. -/
def fractionDigits (d : Decimal) : List Char :=
  if d.fractionLength = 0 then [] else paddedDigits d.fractionLength d.fractionPart

/-- All digits, with a point where there is a fraction and never with an exponent. -/
def text (d : Decimal) : List Char :=
  let fraction := d.fractionDigits
  decimalDigits d.integerPart ++ if fraction.isEmpty then [] else '.' :: fraction

/-- Reads digits with at most one point among them, and an exponent after an `e`. -/
def ofText? (text : List Char) : Option Decimal :=
  let integer := text.takeWhile Char.isDigit
  let rest := text.dropWhile Char.isDigit
  let (fraction, rest) := match rest with
    | '.' :: rest => (rest.takeWhile Char.isDigit, rest.dropWhile Char.isDigit)
    | _ => ([], rest)
  if integer.isEmpty && fraction.isEmpty then none
  else
    let scaled (exponent : Int) : Decimal :=
      ⟨digitsValue (integer ++ fraction), exponent - fraction.length⟩
    match rest with
    | [] => some (scaled 0)
    | c :: rest =>
      if c = 'e' || c = 'E' then
        let (negative, digits) := match rest with
          | '-' :: digits => (true, digits)
          | '+' :: digits => (false, digits)
          | digits => (false, digits)
        if digits.isEmpty || !digits.all Char.isDigit then none
        else if negative then some (scaled (-(digitsValue digits : Int)))
        else some (scaled (digitsValue digits))
      else none

end Decimal

end LocaleMessage
