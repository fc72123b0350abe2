/-!
Sets of characters given by inclusive ranges of code points, the shape in which the tables of
character properties are kept.
-/

namespace LocaleMessage.Text

/-- A set of code points as a list of inclusive ranges. -/
abbrev CodePoints := List (Nat × Nat)

/-- Whether the character's code point lies in one of the ranges. -/
def CodePoints.contains (set : CodePoints) (c : Char) : Bool :=
  set.any fun (first, last) => first ≤ c.toNat && c.toNat ≤ last

end LocaleMessage.Text
