import LocaleMessage.Proofs.Number
import Mathlib.Data.List.Induction
import Mathlib.Tactic.Ring

/-! Runs of decimal digits and the numbers that they stand for: digits put one behind the other, and
digits with zeros in front. -/
namespace LocaleMessage

/-- Digits in front count as often as the digits behind them have places. -/
theorem digitsValue_append (digits digits' : List Char) :
    digitsValue (digits ++ digits') =
      digitsValue digits * 10 ^ digits'.length + digitsValue digits' := by
  induction digits' using List.reverseRecOn with
  | nil => simp [digitsValue]
  | append_singleton digits' c ih =>
      have hLast (front : List Char) :
          digitsValue (front ++ [c]) = 10 * digitsValue front + (c.toNat - '0'.toNat) := by
        simp [digitsValue]
      rw [← List.append_assoc, hLast, hLast, ih, List.length_append, List.length_singleton, pow_succ]
      ring

theorem digitsValue_replicate_zero (k : Nat) : digitsValue (List.replicate k '0') = 0 := by
  induction k with
  | zero => rfl
  | succ k ih =>
      have hZero : digitsValue ['0'] = 0 := rfl
      rw [List.replicate_succ', digitsValue_append, ih, hZero, Nat.zero_mul]

/-- Only zeros stand for zero. Other characters have to be left out, since one that comes before the
digit zero counts as zero as well. -/
theorem digitsValue_eq_zero_iff {digits : List Char} (h : ∀ c ∈ digits, c.isDigit = true) :
    digitsValue digits = 0 ↔ ∀ c ∈ digits, c = '0' := by
  induction digits using List.reverseRecOn with
  | nil => simp [digitsValue]
  | append_singleton digits c ih =>
      have hLast : digitsValue [c] = 0 ↔ c = '0' := by
        obtain ⟨hLow, -⟩ := Char.isDigit_iff_toNat.mp (h c (by simp))
        have hZero : '0'.toNat = 48 := rfl
        rw [← Char.toNat_inj, hZero]
        simp only [digitsValue, List.foldl_cons, List.foldl_nil, hZero]
        omega
      have hFront := ih fun d hMem => h d (List.mem_append_left [c] hMem)
      rw [digitsValue_append, List.forall_mem_append, List.forall_mem_singleton, ← hFront, ← hLast]
      simp

/-- A number needs no more digits than the power of ten above it says. No width at all is left out,
because zero is written with a digit. -/
theorem length_decimalDigits_le {width n : Nat} (hWidth : width ≠ 0) (h : n < 10 ^ width) :
    (decimalDigits n).length ≤ width :=
  (Nat.length_toDigits_le_iff (by decide) (by omega)).mpr h

/-- Padding gives exactly the width that was asked for as long as the number fits; a longer number
is never cut. -/
theorem length_paddedDigits {width n : Nat} (hWidth : width ≠ 0) (h : n < 10 ^ width) :
    (paddedDigits width n).length = width := by
  have hLength := length_decimalDigits_le hWidth h
  simp only [paddedDigits, List.length_append, List.length_replicate]
  omega

theorem paddedDigits_ne_nil (width n : Nat) : paddedDigits width n ≠ [] :=
  List.append_ne_nil_of_right_ne_nil _ (decimalDigits_ne_nil n)

/-- Zeros in front do not change what digits stand for, whatever the width. -/
theorem digitsValue_paddedDigits (width n : Nat) : digitsValue (paddedDigits width n) = n := by
  rw [paddedDigits, digitsValue_append, digitsValue_replicate_zero, digitsValue_decimalDigits,
    Nat.zero_mul, Nat.zero_add]

theorem isDigit_of_mem_paddedDigits {width n : Nat} {c : Char} (h : c ∈ paddedDigits width n) :
    c.isDigit = true := by
  rcases List.mem_append.mp h with hZero | hDigit
  · rw [List.eq_of_mem_replicate hZero]
    rfl
  · exact isDigit_of_mem_decimalDigits hDigit

end LocaleMessage
