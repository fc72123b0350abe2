import LocaleMessage.Binary64.Rounding
import Mathlib.Data.Rat.Floor
import Mathlib.Tactic.Linarith

/-! What rounding to integers is: the nearest integer is taken, and of two equally near ones the
even one. There is exactly one such integer for every number. -/
namespace LocaleMessage.Rounding

/-- The integer `n` is the nearest one to `x`, and even if another one is as near. Nothing is said
about how it is found. -/
structure IsNearestEven (x : Rat) (n : Int) : Prop where
  near : |x - n| ≤ 1 / 2
  even : |x - n| = 1 / 2 → n % 2 = 0

/-- The integer `n` is the nearest one to `x`, and farther away from zero than `x` if another one is
as near. -/
structure IsNearestAway (x : Rat) (n : Int) : Prop where
  near : |x - n| ≤ 1 / 2
  away : |x - n| = 1 / 2 → |x| < |(n : Rat)|

/-- The number `y` is `x` rounded to a number of decimal places, a half going to the even
neighbour. -/
def RoundsToPlaces (places : Nat) (x y : Rat) : Prop :=
  ∃ units : Int, IsNearestEven (x * 10 ^ places) units ∧ y = units / 10 ^ places

/-- Rounding to even gives such an integer. The cases are those of its definition, by the distance
to the floor. -/
theorem halfEven_isNearestEven (x : Rat) : IsNearestEven x (halfEven x) := by
  have hLow : (x.floor : Rat) ≤ x := Int.floor_le x
  have hHigh : x < x.floor + 1 := Int.lt_floor_add_one x
  have hBelow : |x - x.floor| = x - x.floor := abs_of_nonneg (by linarith)
  have hAbove : |x - (x.floor + 1 : Int)| = x.floor + 1 - x := by
    push_cast
    rw [abs_of_neg (by linarith)]
    ring
  dsimp only [halfEven]
  split_ifs with hFirst hLast hEven
  · constructor
    · rw [hBelow]
      exact hFirst.le
    · intro hTie
      rw [hBelow] at hTie
      exact absurd hTie hFirst.ne
  · constructor
    · rw [hAbove]
      linarith
    · intro hTie
      rw [hAbove] at hTie
      linarith
  · exact ⟨by rw [hBelow]; linarith, fun _ => hEven⟩
  · constructor
    · rw [hAbove]
      linarith
    · intro _
      omega

/-- Two integers that are nearest to one number are next to each other, with the number in their
middle. -/
theorem middle_of_near {x : Rat} {n m : Int} (h : |x - n| ≤ 1 / 2) (h' : |x - m| ≤ 1 / 2)
    (hLess : n < m) : m = n + 1 ∧ x = n + 1 / 2 := by
  obtain ⟨_, hHigh⟩ := abs_le.mp h
  obtain ⟨hLow, _⟩ := abs_le.mp h'
  have hGap : (n : Rat) + 1 ≤ m := by exact_mod_cast hLess
  constructor
  · have hRat : (m : Rat) = n + 1 := by linarith
    exact_mod_cast hRat
  · linarith

/-- Of the two neighbours of a middle only one is even. -/
theorem IsNearestEven.not_lt {x : Rat} {n m : Int} (h : IsNearestEven x n)
    (h' : IsNearestEven x m) : ¬ n < m := by
  intro hLess
  obtain ⟨rfl, rfl⟩ := middle_of_near h.near h'.near hLess
  have hEven : n % 2 = 0 := by
    apply h.even
    norm_num
  have hEven' : (n + 1) % 2 = 0 := by
    apply h'.even
    push_cast
    norm_num
  omega

/-- There is at most one such integer, so what is rounded to even is determined by the number. -/
theorem IsNearestEven.unique {x : Rat} {n m : Int} (h : IsNearestEven x n)
    (h' : IsNearestEven x m) : n = m := by
  have hNot := h.not_lt h'
  have hNot' := h'.not_lt h
  omega

/-- Rounding up from the middle is rounding away from zero for numbers that are not negative. Below
zero it would go the other way. -/
theorem halfUp_isNearestAway {x : Rat} (h : 0 ≤ x) : IsNearestAway x (halfUp x) := by
  have hLow : (halfUp x : Rat) ≤ x + 1 / 2 := Int.floor_le (x + 1 / 2)
  have hHigh : x + 1 / 2 < halfUp x + 1 := Int.lt_floor_add_one (x + 1 / 2)
  constructor
  · rw [abs_le]
    constructor <;> linarith
  · intro hTie
    have hAbove : (halfUp x : Rat) = x + 1 / 2 := by
      rcases eq_or_eq_neg_of_abs_eq hTie with hFirst | hLast
      · linarith
      · linarith
    rw [abs_of_nonneg h, hAbove, abs_of_nonneg (by linarith)]
    linarith

theorem IsNearestAway.neg {x : Rat} {n : Int} (h : IsNearestAway x n) :
    IsNearestAway (-x) (-n) := by
  have hDistance : |-x - (-n : Int)| = |x - n| := by
    rw [Int.cast_neg, ← abs_neg]
    congr 1
    ring
  constructor
  · rw [hDistance]
    exact h.near
  · intro hTie
    rw [hDistance] at hTie
    rw [Int.cast_neg, abs_neg, abs_neg]
    exact h.away hTie

/-- Of the two neighbours of a middle only one is farther away from zero than the middle. -/
theorem IsNearestAway.not_lt {x : Rat} {n m : Int} (h : IsNearestAway x n)
    (h' : IsNearestAway x m) : ¬ n < m := by
  intro hLess
  obtain ⟨rfl, rfl⟩ := middle_of_near h.near h'.near hLess
  have hBelow : |(n : Rat) + 1 / 2| < |(n : Rat)| := by
    apply h.away
    norm_num
  have hAbove : |(n : Rat) + 1 / 2| < |(n : Rat) + 1| := by
    have hAway := h'.away
    push_cast at hAway
    apply hAway
    norm_num
  rcases le_or_gt 0 n with hPositive | hNegative
  · have hRat : (0 : Rat) ≤ n := by exact_mod_cast hPositive
    rw [abs_of_nonneg hRat, abs_of_nonneg (by linarith)] at hBelow
    linarith
  · have hRat : (n : Rat) + 1 ≤ 0 := by exact_mod_cast hNegative
    rw [abs_of_nonpos hRat, abs_of_nonpos (by linarith)] at hAbove
    linarith

theorem IsNearestAway.unique {x : Rat} {n m : Int} (h : IsNearestAway x n)
    (h' : IsNearestAway x m) : n = m := by
  have hNot := h.not_lt h'
  have hNot' := h'.not_lt h
  omega

end LocaleMessage.Rounding
