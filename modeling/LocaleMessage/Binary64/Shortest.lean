import LocaleMessage.Binary64.Basic

/-!
The shortest decimals that read back as a given floating-point number.

A decimal reads back as a magnitude if it lies between the middles to the two neighbours, the
middles included when the significand is even. The grids of multiples of powers of ten are tried
from coarse to fine; the first with such a decimal has it next to the value.
-/

namespace LocaleMessage

namespace Magnitude

/-- The distance to the next greater magnitude. -/
def step (x : Magnitude) : Rat :=
  (2 : Rat) ^ x.exponent

/-- The middle to the next smaller neighbour, which is nearer below a power of two. -/
def lowerEnd (x : Magnitude) : Rat :=
  if x.significand = 4503599627370496 ∧ x.exponent ≠ -1074 then x.value - x.step / 4
  else x.value - x.step / 2

/-- The middle to the next greater neighbour. -/
def upperEnd (x : Magnitude) : Rat :=
  x.value + x.step / 2

/-- Whether the nearest magnitude to `y` is `x`. -/
def isNearestTo (x : Magnitude) (y : Rat) : Bool :=
  if x.significand % 2 = 0 then x.lowerEnd ≤ y && y ≤ x.upperEnd
  else x.lowerEnd < y && y < x.upperEnd

/-- The multiple of `10 ^ p` that reads back as `x`, the nearer of two and the greater of two
equally near ones. -/
def onGrid? (x : Magnitude) (p : Int) : Option Nat :=
  let unit : Rat := (10 : Rat) ^ p
  let below := (x.value / unit).floor.toNat
  let lower : Rat := below * unit
  let upper : Rat := (below + 1 : Nat) * unit
  match x.isNearestTo lower, x.isNearestTo upper with
  | true, true => if x.value - lower < upper - x.value then some below else some (below + 1)
  | true, false => some below
  | false, true => some (below + 1)
  | false, false => none

/-- The power of ten of a grid on which the value itself lies. -/
def exactGrid (x : Magnitude) : Int :=
  min x.exponent 0

/-- The power of ten of a grid too coarse for any decimal but zero to read back as `x`. -/
def coarseGrid (x : Magnitude) : Int :=
  let top := x.exponent + 53
  if 0 ≤ top then top / 3 + 1 else -(-top / 4)

/-- Tries the grids from `k` powers of ten above the exact one downwards. -/
def shortestBelow (x : Magnitude) : Nat → Decimal
  | 0 => ⟨(x.value / (10 : Rat) ^ x.exactGrid).floor.toNat, x.exactGrid⟩
  | k + 1 =>
    match x.onGrid? (x.exactGrid + (k + 1 : Nat)) with
    | some n => ⟨n, x.exactGrid + (k + 1 : Nat)⟩
    | none => shortestBelow x k

/-- The shortest decimal that reads back as `x`, and the nearest of those. -/
def shortest (x : Magnitude) : Decimal :=
  if x.significand = 0 then ⟨0, 0⟩
  else x.shortestBelow (x.coarseGrid - x.exactGrid).toNat

end Magnitude

namespace Binary64

/-- The number in positional form with the fewest digits that read back as it. -/
def text : Binary64 → String
  | nan _ => "NaN"
  | infinite negative => if negative then "-inf" else "inf"
  | finite negative x =>
    let digits := x.shortest.text
    String.ofList (if negative then '-' :: digits else digits)

end Binary64

end LocaleMessage
