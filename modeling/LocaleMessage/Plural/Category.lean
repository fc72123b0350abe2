/-!
The grammatical categories of numbers, and the two uses of numbers that have rules.
-/

namespace LocaleMessage

inductive PluralCategory where
  | zero
  | one
  | two
  | few
  | many
  | other
deriving DecidableEq, Repr

/-- The selector that stands for the category. -/
def PluralCategory.text : PluralCategory → String
  | zero => "zero"
  | one => "one"
  | two => "two"
  | few => "few"
  | many => "many"
  | other => "other"

inductive PluralType where
  /-- Quantities, as in two days. -/
  | cardinal
  /-- Positions, as in the second day. -/
  | ordinal
deriving DecidableEq, Repr

end LocaleMessage
