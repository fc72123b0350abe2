/-!
Rounding of rational numbers to integers and to binary fractions.
-/

namespace LocaleMessage.Rounding

/-- The nearest integer. A half goes to the even neighbour. -/
def halfEven (x : Rat) : Int :=
  let below := x.floor
  let part := x - below
  if part < 1 / 2 then below
  else if 1 / 2 < part then below + 1
  else if below % 2 = 0 then below
  else below + 1

/-- The nearest integer to a number that is not negative. A half goes up. -/
def halfUp (x : Rat) : Int :=
  (x + 1 / 2).floor

/-- The greatest `k` with `2 ^ k ≤ x`, for positive `x`. -/
def log2 (x : Rat) : Int :=
  let k : Int := x.num.natAbs.log2 - x.den.log2
  if (2 : Rat) ^ k ≤ x then k else k - 1

/-- The exponent of the last of `bits` binary digits of a positive `x`, no less than `least`. -/
def lastExponent (bits : Nat) (least : Int) (x : Rat) : Int :=
  max least (log2 x - (bits - 1 : Nat))

/-- The nearest `m · 2 ^ e` to a positive `x` with `m` of at most `bits` digits and `e` no less
than `least`, a half going to the even `m`. -/
def toBits (bits : Nat) (least : Int) (x : Rat) : Nat × Int :=
  let e := lastExponent bits least x
  let m := (halfEven (x / (2 : Rat) ^ e)).toNat
  if m = Nat.pow 2 bits then (Nat.pow 2 (bits - 1), e + 1) else (m, e)

end LocaleMessage.Rounding
