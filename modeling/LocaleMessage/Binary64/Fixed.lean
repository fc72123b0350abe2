import LocaleMessage.Binary64.Basic

/-!
Rounding to a fixed number of decimal places. It is the exact value that is rounded, and a half
goes to the even neighbour.
-/

namespace LocaleMessage.Magnitude

/-- The nearest multiple of `10 ^ -places`, counted in those units. -/
def toPlaces (x : Magnitude) (places : Nat) : Nat :=
  (Rounding.halfEven (x.value * (Nat.pow 10 places : Nat))).toNat

end LocaleMessage.Magnitude
