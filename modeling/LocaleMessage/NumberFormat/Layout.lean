/-!
Layouts of decimal numbers, and the patterns of number signs and zeros that name them.
-/

namespace LocaleMessage.NumberFormat

/-- How many digits stand behind the decimal separator, whether the digits before it are
grouped, and whether the number is written as a percentage. -/
structure Layout where
  minFraction : Nat
  maxFraction : Nat
  grouping : Bool
  percent : Bool
deriving DecidableEq, Repr

namespace Layout

def default : Layout := ⟨0, 3, true, false⟩

def integer : Layout := ⟨0, 0, true, false⟩

def percentage : Layout := ⟨0, 0, true, true⟩

/-- A fixed number of digits behind the decimal separator. -/
def fixed (digits : Nat) : Layout := ⟨digits, digits, true, false⟩

/-- Whether the character can stand in a pattern. -/
def isPatternChar (c : Char) : Bool :=
  c = '#' || c = '0' || c = ',' || c = '.' || c = '%'

/-- The layout that a pattern such as `#,##0.00` or `0.#%` names. Behind the point, zeros are
digits that are always written and number signs are digits that may be. A comma before the
point asks for groups, and a percent sign at the end for a percentage. -/
def ofPattern? (pattern : List Char) : Option Layout :=
  if pattern.isEmpty || !pattern.all isPatternChar then none
  else
    let body := (pattern.reverse.dropWhile (· = '%')).reverse
    let integer := body.takeWhile (· ≠ '.')
    let fraction := (body.dropWhile (· ≠ '.')).drop 1
    some {
      minFraction := fraction.count '0'
      maxFraction := fraction.count '0' + fraction.count '#'
      grouping := integer.contains ','
      percent := pattern.getLast? = some '%' }

end Layout

end LocaleMessage.NumberFormat
