import LocaleMessage.Binary64.Fixed
import LocaleMessage.Number
import Mathlib.Algebra.Order.Field.Power
import Mathlib.Data.Int.Log
import Mathlib.Data.Rat.Floor
import Mathlib.Tactic.Linarith
import Mathlib.Tactic.Positivity
import Mathlib.Tactic.Ring

/-! Numbers that rounding leaves as they are. A magnitude is the nearest one to its own value, and
integers of at most 53 bits are values of magnitudes, so as floating-point numbers they keep their
sign, their text and their digits, and offsets and percentages of them are exact. -/
namespace LocaleMessage

/-- The decimal is an integer that is written without a fraction. It may have zeros at its end that
its coefficient leaves out. -/
def Decimal.IsNat (d : Decimal) (n : Nat) : Prop :=
  ∃ p : Nat, d.exponent = p ∧ d.coefficient * 10 ^ p = n

namespace Decimal.IsNat

variable {d : Decimal} {n : Nat}

theorem integerPart (h : d.IsNat n) : d.integerPart = n := by
  obtain ⟨p, hExponent, hValue⟩ := h
  simp [Decimal.integerPart, fractionLength, hExponent, hValue]

theorem fractionDigits (h : d.IsNat n) : d.fractionDigits = [] := by
  obtain ⟨p, hExponent, _⟩ := h
  simp [Decimal.fractionDigits, fractionLength, hExponent]

theorem text (h : d.IsNat n) : d.text = decimalDigits n := by
  simp [Decimal.text, h.integerPart, h.fractionDigits]

end Decimal.IsNat

namespace Rounding

@[simp] theorem halfEven_intCast (n : Int) : halfEven n = n := by
  simp [halfEven, Rat.floor_intCast]

theorem halfUp_natCast (n : Nat) : halfUp n = n := by
  have hFloor : ((n : Rat) + 1 / 2).floor = ⌊(n : Rat) + 1 / 2⌋ := rfl
  rw [halfUp, hFloor, Int.floor_eq_iff]
  constructor <;> push_cast <;> linarith

/-- The lengths of numerator and denominator tell the power of two up to a factor of two, and one
comparison settles which it is. -/
theorem log2_eq_log {x : Rat} (hx : 0 < x) : log2 x = Int.log 2 x := by
  have hDen : (0 : Rat) < x.den := by exact_mod_cast x.den_pos
  have hNum : 0 < x.num := Rat.num_pos.mpr hx
  have hValue : x = x.num.natAbs / x.den := by
    have hAbs : (x.num.natAbs : Rat) = x.num := by
      rw [← Int.cast_natCast, Int.natAbs_of_nonneg hNum.le]
    rw [hAbs, Rat.num_div_den]
  have hNumLow : (2 : Rat) ^ (x.num.natAbs.log2 : Int) ≤ x.num.natAbs := by
    exact_mod_cast Nat.log2_self_le (Int.natAbs_pos.mpr hNum.ne').ne'
  have hNumHigh : (x.num.natAbs : Rat) < 2 ^ ((x.num.natAbs.log2 : Int) + 1) := by
    exact_mod_cast Nat.lt_log2_self
  have hDenLow : (2 : Rat) ^ (x.den.log2 : Int) ≤ x.den := by
    exact_mod_cast Nat.log2_self_le x.den_pos.ne'
  have hDenHigh : (x.den : Rat) < 2 ^ ((x.den.log2 : Int) + 1) := by
    exact_mod_cast Nat.lt_log2_self
  generalize hTop : (x.num.natAbs.log2 : Int) = top at *
  generalize hBottom : (x.den.log2 : Int) = bottom at *
  have hLow : (2 : Rat) ^ (top - bottom - 1) ≤ x := by
    rw [hValue, le_div_iff₀ hDen]
    calc (2 : Rat) ^ (top - bottom - 1) * x.den
        ≤ 2 ^ (top - bottom - 1) * 2 ^ (bottom + 1) := by gcongr
      _ = 2 ^ top := by rw [← zpow_add₀ two_ne_zero]; congr 1; ring
      _ ≤ x.num.natAbs := hNumLow
  have hHigh : x < 2 ^ (top - bottom + 1) := by
    rw [hValue, div_lt_iff₀ hDen]
    calc (x.num.natAbs : Rat) < 2 ^ (top + 1) := hNumHigh
      _ = 2 ^ (top - bottom + 1) * 2 ^ bottom := by rw [← zpow_add₀ two_ne_zero]; congr 1; ring
      _ ≤ 2 ^ (top - bottom + 1) * x.den := by gcongr
  have hLogLow : top - bottom - 1 ≤ Int.log 2 x :=
    (Int.zpow_le_iff_le_log Nat.one_lt_two hx).mp (by exact_mod_cast hLow)
  have hLogHigh : Int.log 2 x < top - bottom + 1 :=
    (Int.lt_zpow_iff_log_lt Nat.one_lt_two hx).mp (by exact_mod_cast hHigh)
  have hExact : (2 : Rat) ^ (top - bottom) ≤ x ↔ top - bottom ≤ Int.log 2 x := by
    exact_mod_cast Int.zpow_le_iff_le_log Nat.one_lt_two hx
  unfold log2
  simp only [hTop, hBottom, hExact]
  split_ifs with h
  · omega
  · omega

end Rounding

namespace Magnitude

theorem value_nonneg (x : Magnitude) : 0 ≤ x.value := by
  unfold value
  positivity

theorem value_pos {x : Magnitude} (h : x.significand ≠ 0) : 0 < x.value := by
  unfold value
  positivity

theorem value_eq_zero_iff {x : Magnitude} : x.value = 0 ↔ x.significand = 0 := by
  constructor
  · intro h
    by_contra hSignificand
    exact (value_pos hSignificand).ne' h
  · intro h
    simp [value, h]

theorem eq_zero_of_significand {x : Magnitude} (h : x.significand = 0) : x = zero := by
  obtain ⟨significand, exponent, canonical⟩ := x
  obtain rfl : significand = 0 := h
  obtain rfl : exponent = -1074 := by
    obtain ⟨_, _, _, hAll⟩ := canonical
    omega
  rfl

/-- A significand has 53 bits at most, which bounds the value by the exponent. -/
theorem value_lt (x : Magnitude) : x.value < 2 ^ (x.exponent + 53) := by
  have hSignificand : (x.significand : Rat) < 2 ^ (53 : Int) := by
    have hBits : x.significand < 2 ^ 53 := x.canonical.1
    exact_mod_cast hBits
  rw [value, zpow_add₀ two_ne_zero, mul_comm]
  gcongr

/-- Above the least exponent the first bit is set. Subnormal magnitudes are left out, which have
none at that place. -/
theorem le_value {x : Magnitude} (h : x.exponent ≠ -1074) : 2 ^ (x.exponent + 52) ≤ x.value := by
  have hSignificand : (2 : Rat) ^ (52 : Int) ≤ x.significand := by
    have hBits : 2 ^ 52 ≤ x.significand := x.canonical.2.2.2.resolve_right h
    exact_mod_cast hBits
  rw [value, zpow_add₀ two_ne_zero, mul_comm]
  gcongr

/-- Rounding puts the last binary digit of a value where the magnitude has it. Zero has no first
digit to count from. -/
theorem lastExponent_value {x : Magnitude} (h : x.significand ≠ 0) :
    Rounding.lastExponent 53 (-1074) x.value = x.exponent := by
  have hPos := value_pos h
  have hHigh : Int.log 2 x.value < x.exponent + 53 :=
    (Int.lt_zpow_iff_log_lt Nat.one_lt_two hPos).mp (by exact_mod_cast x.value_lt)
  have hLow : x.exponent ≠ -1074 → x.exponent + 52 ≤ Int.log 2 x.value := fun hExponent =>
    (Int.zpow_le_iff_le_log Nat.one_lt_two hPos).mp (by exact_mod_cast le_value hExponent)
  have hLeast : -1074 ≤ x.exponent := x.canonical.2.1
  rw [Rounding.lastExponent, Rounding.log2_eq_log hPos]
  omega

/-- A magnitude is the nearest one to its own value, so rounding it again changes nothing. It is
also within the range. -/
theorem ofRat?_value (x : Magnitude) : ofRat? x.value = some x := by
  by_cases h : x.significand = 0
  · rw [value_eq_zero_iff.mpr h, eq_zero_of_significand h, ofRat?, if_pos le_rfl]
  · have hScaled : x.value / 2 ^ x.exponent = (x.significand : Int) := by
      rw [value, mul_div_cancel_right₀ _ (by positivity)]
      rfl
    have hBits : x.significand ≠ Nat.pow 2 53 := x.canonical.1.ne
    simp only [ofRat?, if_neg (value_pos h).not_ge, Rounding.toBits, lastExponent_value h, hScaled,
      Rounding.halfEven_intCast, Int.toNat_natCast, hBits, if_false, x.canonical, dif_pos]

/-- Rounding does not bring numbers from one on below one, since one is a magnitude itself. -/
theorem one_le_of_ofRat? {v : Rat} {x : Magnitude} (hv : 1 ≤ v) (h : ofRat? v = some x) :
    1 ≤ x.value := by
  have hPos : 0 < v := by linarith
  have hLog : 0 ≤ Int.log 2 v := by
    apply (Int.zpow_le_iff_le_log Nat.one_lt_two hPos).mp
    exact_mod_cast hv
  have hExponent : -52 ≤ x.exponent := by
    have hLast : -52 ≤ Rounding.lastExponent 53 (-1074) v := by
      rw [Rounding.lastExponent, Rounding.log2_eq_log hPos]
      omega
    simp only [ofRat?, if_neg hPos.not_ge, Rounding.toBits] at h
    split_ifs at h with hCarry
    · obtain rfl := Option.some.inj h
      dsimp only
      omega
    · obtain rfl := Option.some.inj h
      exact hLast
  have hOne : (2 : Rat) ^ (0 : Int) ≤ 2 ^ (x.exponent + 52) :=
    zpow_le_zpow_right₀ one_le_two (by omega)
  rw [zpow_zero] at hOne
  exact hOne.trans (le_value (by omega))

/-- Every integer of at most 53 bits is the value of a magnitude. Zero is included. -/
theorem exists_value_eq {n : Nat} (h : n < 2 ^ 53) : ∃ x : Magnitude, x.value = n := by
  by_cases hZero : n = 0
  · exact ⟨zero, by simp [value, zero, hZero]⟩
  · -- The binary digits are moved up until there are 53 of them.
    have hBits : n.log2 ≤ 52 := Nat.le_of_lt_succ ((Nat.log2_lt hZero).mpr h)
    have hLow : 2 ^ 52 ≤ n * 2 ^ (52 - n.log2) := by
      calc 2 ^ 52 = 2 ^ n.log2 * 2 ^ (52 - n.log2) := by rw [← Nat.pow_add]; congr 1; omega
        _ ≤ n * 2 ^ (52 - n.log2) := Nat.mul_le_mul_right _ (Nat.log2_self_le hZero)
    have hHigh : n * 2 ^ (52 - n.log2) < 2 ^ 53 := by
      calc n * 2 ^ (52 - n.log2) < 2 ^ (n.log2 + 1) * 2 ^ (52 - n.log2) :=
            Nat.mul_lt_mul_of_pos_right Nat.lt_log2_self (by positivity)
        _ = 2 ^ 53 := by rw [← Nat.pow_add]; congr 1; omega
    refine ⟨⟨n * 2 ^ (52 - n.log2), -((52 - n.log2 : Nat) : Int), hHigh, by omega, by omega,
      Or.inl hLow⟩, ?_⟩
    rw [value, Nat.cast_mul, mul_assoc, Nat.cast_pow, Nat.cast_ofNat, zpow_neg, zpow_natCast,
      mul_inv_cancel₀ (by positivity), mul_one]

/-- The unit of a magnitude below 53 bits is one or a fraction of one, because from one on the first
bit of a significand is set. -/
theorem exponent_nonpos {x : Magnitude} {n : Nat} (hx : x.value = n) (hn : n < 2 ^ 53) :
    x.exponent ≤ 0 := by
  by_contra hExponent
  have hTop : (2 : Rat) ^ (53 : Int) ≤ 2 ^ (x.exponent + 52) :=
    zpow_le_zpow_right₀ one_le_two (by omega)
  have hSmall : x.value < 2 ^ (53 : Int) := by
    rw [hx]
    exact_mod_cast hn
  exact (hTop.trans (le_value (by omega))).not_gt hSmall

theorem exponent_of_pos {x : Magnitude} {n : Nat} (hx : x.value = n) (hn : 0 < n) :
    0 < x.exponent + 53 := by
  by_contra hExponent
  have hSmall : (2 : Rat) ^ (x.exponent + 53) ≤ 2 ^ (0 : Int) :=
    zpow_le_zpow_right₀ one_le_two (by omega)
  have hOne : (1 : Rat) ≤ x.value := by
    rw [hx]
    exact_mod_cast hn
  linarith [x.value_lt]

/-- Places behind the point only add zeros to an integer, whatever its size. -/
theorem toPlaces_of_value {x : Magnitude} {n : Nat} (hx : x.value = n) (places : Nat) :
    x.toPlaces places = n * 10 ^ places := by
  have hUnits : x.value * (Nat.pow 10 places : Nat) = ((n * 10 ^ places : Nat) : Int) := by
    rw [hx, Nat.pow_eq]
    push_cast
    rfl
  rw [toPlaces, hUnits, Rounding.halfEven_intCast, Int.toNat_natCast]

theorem step_pos (x : Magnitude) : 0 < x.step := by
  unfold step
  positivity

theorem isNearestTo_value (x : Magnitude) : x.isNearestTo x.value = true := by
  have hStep := x.step_pos
  have hLower : x.lowerEnd < x.value := by
    unfold lowerEnd
    split_ifs <;> linarith
  have hUpper : x.value < x.upperEnd := by
    unfold upperEnd
    linarith
  unfold isNearestTo
  split_ifs <;> simp [hLower, hUpper, hLower.le, hUpper.le]

/-- What is nearest to a magnitude is at most half a step away. Below a power of two the neighbours
are closer, which only makes the bound generous. -/
theorem abs_sub_le_of_isNearestTo {x : Magnitude} {y : Rat} (h : x.isNearestTo y = true) :
    |y - x.value| ≤ x.step / 2 := by
  have hStep := x.step_pos
  have hEnds : x.lowerEnd ≤ y ∧ y ≤ x.upperEnd := by
    unfold isNearestTo at h
    split_ifs at h
    · simpa using h
    · obtain ⟨hLow, hHigh⟩ : x.lowerEnd < y ∧ y < x.upperEnd := by simpa using h
      exact ⟨hLow.le, hHigh.le⟩
  have hLower : x.value - x.step / 2 ≤ x.lowerEnd := by
    unfold lowerEnd
    split_ifs <;> linarith
  have hUpper : x.upperEnd = x.value + x.step / 2 := rfl
  rw [abs_le]
  constructor <;> linarith [hEnds.1, hEnds.2]

/-- What is found on a decimal grid reads back as the magnitude; that is what it is looked
for by. -/
theorem isNearestTo_of_onGrid? {x : Magnitude} {p : Int} {n : Nat} (h : x.onGrid? p = some n) :
    x.isNearestTo (n * (10 : Rat) ^ p) = true := by
  unfold onGrid? at h
  dsimp only at h
  split at h
  · next hLower hUpper =>
      split_ifs at h <;> cases h
      · exact hLower
      · exact hUpper
  · next hLower _ =>
      cases h
      exact hLower
  · next _ hUpper =>
      cases h
      exact hUpper
  · cases h

/-- No other integer is nearest to an integer of at most 53 bits: the next ones are a whole step or
more away. -/
theorem eq_of_isNearestTo {x : Magnitude} {n m : Nat} (hx : x.value = n) (hn : n < 2 ^ 53)
    (h : x.isNearestTo m = true) : m = n := by
  have hNear := abs_sub_le_of_isNearestTo h
  have hStep : x.step ≤ 1 := by
    rw [step, ← zpow_zero (2 : Rat)]
    exact zpow_le_zpow_right₀ one_le_two (exponent_nonpos hx hn)
  have hDistance : |(m : Int) - (n : Int)| < 1 := by
    have hRat : |(m : Rat) - (n : Rat)| < 1 := by
      rw [hx] at hNear
      linarith
    exact_mod_cast hRat
  have hEq := Int.abs_lt_one_iff.mp hDistance
  omega

theorem floor_value {x : Magnitude} {n : Nat} (hx : x.value = n) :
    (x.value / (10 : Rat) ^ (0 : Int)).floor.toNat = n := by
  rw [hx, zpow_zero, div_one, ← Int.cast_natCast, Rat.floor_intCast, Int.toNat_natCast]

theorem onGrid?_zero_ne_none {x : Magnitude} {n : Nat} (hx : x.value = n) :
    x.onGrid? 0 ≠ none := by
  have hNear : x.isNearestTo (n * (10 : Rat) ^ (0 : Int)) = true := by
    simpa [← hx] using x.isNearestTo_value
  unfold onGrid?
  simp only [floor_value hx, hNear]
  split <;> simp_all

/-- Grids down to that of the integers have integers only, and the last of them has the integer
itself at the latest. The induction is on the number of grids that are still to be tried. -/
theorem exists_shortestBelow_isNat {x : Magnitude} {n : Nat} (hx : x.value = n) (k : Nat)
    (hGrid : 0 ≤ x.exactGrid + k) :
    ∃ m : Nat, (x.shortestBelow k).IsNat m ∧ x.isNearestTo m = true := by
  induction k with
  | zero =>
      have hExact : x.exactGrid = 0 := by
        unfold exactGrid at hGrid ⊢
        omega
      refine ⟨n, ⟨0, by simp [shortestBelow, hExact], ?_⟩, ?_⟩
      · simp only [shortestBelow, hExact, floor_value hx, pow_zero, mul_one]
      · rw [← hx]
        exact x.isNearestTo_value
  | succ k ih =>
      obtain ⟨p, hPower⟩ := Int.eq_ofNat_of_zero_le hGrid
      unfold shortestBelow
      rw [hPower]
      cases hFound : x.onGrid? p with
      | some c =>
          have hNearest := isNearestTo_of_onGrid? hFound
          rw [zpow_natCast] at hNearest
          exact ⟨c * 10 ^ p, ⟨p, rfl, rfl⟩, by exact_mod_cast hNearest⟩
      | none =>
          have hCoarse : p ≠ 0 := by
            rintro rfl
            exact onGrid?_zero_ne_none hx hFound
          exact ih (by omega)

/-- The shortest decimal of an integer is an integer that reads back as it. Above 53 bits it may be
another one. -/
theorem exists_shortest_isNat {x : Magnitude} {n : Nat} (hx : x.value = n) :
    ∃ m : Nat, x.shortest.IsNat m ∧ x.isNearestTo m = true := by
  unfold shortest
  split_ifs with hZero
  · refine ⟨0, ⟨0, rfl, rfl⟩, ?_⟩
    rw [Nat.cast_zero, ← value_eq_zero_iff.mpr hZero]
    exact x.isNearestTo_value
  · have hPos : 0 < n := by
      have hValue := value_pos hZero
      rw [hx] at hValue
      exact_mod_cast hValue
    apply exists_shortestBelow_isNat hx
    have hTop := exponent_of_pos hx hPos
    have hCoarse : 0 ≤ x.coarseGrid := by
      dsimp only [coarseGrid]
      split_ifs <;> omega
    omega

/-- An integer of at most 53 bits is its own shortest decimal, as no other integer is nearest
to it. -/
theorem shortest_isNat {x : Magnitude} {n : Nat} (hx : x.value = n) (hn : n < 2 ^ 53) :
    x.shortest.IsNat n := by
  obtain ⟨m, hShortest, hNearest⟩ := exists_shortest_isNat hx
  rwa [eq_of_isNearestTo hx hn hNearest] at hShortest

end Magnitude

namespace Binary64

/-- The magnitude of a finite number is its value without the sign. -/
theorem value_eq_abs {negative : Bool} {x : Magnitude} {v : Rat}
    (h : (finite negative x).value? = some v) : x.value = |v| := by
  obtain rfl : (if negative then -x.value else x.value) = v := Option.some.inj h
  cases negative <;> simp [abs_of_nonneg x.value_nonneg]

theorem ofInt_eq (i : Int) :
    ofInt i = ofMagnitude (decide (i < 0)) (Magnitude.ofRat? i.natAbs) := by
  have hSign : (i : Rat) < 0 ↔ i < 0 := by exact_mod_cast Iff.rfl
  unfold ofInt ofRat
  by_cases h : i < 0
  · have hAbs : -(i : Rat) = i.natAbs := by
      rw [← Int.cast_natCast, ← Int.cast_neg]
      congr 1
      omega
    rw [if_pos (hSign.mpr h), hAbs, decide_eq_true h]
  · have hAbs : (i : Rat) = i.natAbs := by
      rw [← Int.cast_natCast]
      congr 1
      omega
    rw [if_neg fun hNeg => h (hSign.mp hNeg), decide_eq_false h, ← hAbs]

/-- An integer of at most 53 bits as a floating-point number: its sign, and a magnitude that is
exactly its absolute value. Zero has no sign. -/
theorem exists_ofInt_eq {i : Int} (h : i.natAbs < 2 ^ 53) :
    ∃ x : Magnitude, x.value = i.natAbs ∧ ofInt i = finite (decide (i < 0)) x := by
  obtain ⟨x, hx⟩ := Magnitude.exists_value_eq h
  refine ⟨x, hx, ?_⟩
  rw [ofInt_eq, ← hx, Magnitude.ofRat?_value, ofMagnitude]

theorem signed_natAbs (i : Int) :
    (if decide (i < 0) = true then -(i.natAbs : Int) else i.natAbs) = i := by
  simp only [decide_eq_true_eq]
  split_ifs <;> omega

variable {i : Int}

theorem signBit_ofInt (h : i.natAbs < 2 ^ 53) : (ofInt i).signBit = decide (i < 0) := by
  obtain ⟨x, _, hInt⟩ := exists_ofInt_eq h
  rw [hInt, signBit]

theorem isZero_ofInt (h : i.natAbs < 2 ^ 53) : (ofInt i).isZero = decide (i = 0) := by
  obtain ⟨x, hx, hInt⟩ := exists_ofInt_eq h
  have hZero : x.significand = 0 ↔ i = 0 := by
    rw [← Magnitude.value_eq_zero_iff, hx, Nat.cast_eq_zero, Int.natAbs_eq_zero]
  rw [hInt, isZero, decide_eq_decide.mpr hZero]

theorem value?_ofInt (h : i.natAbs < 2 ^ 53) : (ofInt i).value? = some (i : Rat) := by
  obtain ⟨x, hx, hInt⟩ := exists_ofInt_eq h
  have hSigned : (if decide (i < 0) = true then -(i.natAbs : Rat) else i.natAbs) = (i : Rat) := by
    have hCast := congrArg (Int.cast : Int → Rat) (signed_natAbs i)
    rwa [apply_ite Int.cast, Int.cast_neg, Int.cast_natCast] at hCast
  rw [hInt, value?, hx, hSigned]

/-- A floating-point number is taken for an integer just if its value is one. Nothing is said about
its size. -/
theorem toInt?_eq_some_iff {f : Binary64} :
    f.toInt? = some i ↔ f.value? = some (i : Rat) := by
  cases hValue : f.value? with
  | none => simp [toInt?, hValue]
  | some v =>
      simp only [toInt?, hValue, Option.some.injEq]
      constructor
      · intro hInt
        split_ifs at hInt with hDen
        rw [← Option.some.inj hInt, Rat.coe_int_num_of_den_eq_one hDen]
      · rintro rfl
        simp

theorem round?_ofInt (h : i.natAbs < 2 ^ 53) : (ofInt i).round? = some i := by
  obtain ⟨x, hx, hInt⟩ := exists_ofInt_eq h
  rw [hInt, round?, hx, Rounding.halfUp_natCast, signed_natAbs]

/-- Offsets are taken off integers exactly. -/
theorem minus_ofInt (h : i.natAbs < 2 ^ 53) (n : Nat) : (ofInt i).minus n = ofInt (i - n) := by
  rw [minus, value?_ofInt h]
  dsimp only
  split_ifs with hZero
  · rw [hZero, Nat.cast_zero, sub_zero]
  · rw [ofInt, Int.cast_sub, Int.cast_natCast]

/-- A hundred times an integer is rounded as the integer that it is. Only the integer itself has to
be exact. -/
theorem timesHundred_ofInt (h : i.natAbs < 2 ^ 53) : (ofInt i).timesHundred = ofInt (i * 100) := by
  obtain ⟨x, hx, hInt⟩ := exists_ofInt_eq h
  have hSign : i * 100 < 0 ↔ i < 0 := by omega
  have hAbs : 100 * (i.natAbs : Rat) = ((i * 100).natAbs : Nat) := by
    rw [Int.natAbs_mul, Nat.cast_mul, mul_comm]
    rfl
  rw [hInt, timesHundred, hx, ofInt_eq, decide_eq_decide.mpr hSign, hAbs]

/-- An integer of at most 53 bits has the same text as a floating-point number. Beyond them the last
digits may differ. -/
theorem text_ofInt (h : i.natAbs < 2 ^ 53) : (ofInt i).text = intText i := by
  obtain ⟨x, hx, hInt⟩ := exists_ofInt_eq h
  rw [hInt, text, (Magnitude.shortest_isNat hx h).text, intText]
  simp only [decide_eq_true_eq]

end Binary64

end LocaleMessage
