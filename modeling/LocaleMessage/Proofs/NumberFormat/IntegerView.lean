import LocaleMessage.NumberFormat
import LocaleMessage.Proofs.Binary64.Exact
import LocaleMessage.Proofs.Number

/-! The integers that floating-point numbers are, and the English positions that they are written
as. The integer is the exact value of the number, with one exception: the power of two above the
greatest integer counts as the greatest integer. -/
namespace LocaleMessage

/-- Up to the power of two above the greatest integer, saturating is the identity but for that power
itself. -/
theorem int64Nearest_eq_iff {k : Int} (hLow : -9223372036854775808 ≤ k)
    (hHigh : k ≤ 9223372036854775808) {i : Int64} :
    int64Nearest k = i ↔ k = i.toInt ∨ k = 2 ^ 63 ∧ i = Int64.maxValue := by
  have hMost : i.toInt ≤ 9223372036854775807 := i.toInt_le
  unfold int64Nearest
  rw [if_neg (by omega)]
  split_ifs with hBeyond
  · have hTop : k = 2 ^ 63 := by omega
    have hNot : k ≠ i.toInt := by omega
    simp only [hTop, true_and, hTop ▸ hNot, false_or, eq_comm]
  · have hBelow : k ≠ 2 ^ 63 := by omega
    have hWord : (Int64.ofInt k).toInt = k := Int64.toInt_ofInt_of_le (by omega) (by omega)
    simp only [hBelow, false_and, or_false]
    rw [← Int64.toInt_inj, hWord]

namespace Number

theorem toInteger?_decimal {f : Binary64} {i : Int64} :
    (decimal f).toInteger? = some i ↔
      ∃ k : Int, f.toInt? = some k ∧ -9223372036854775808 ≤ k ∧ k ≤ 9223372036854775808 ∧
        int64Nearest k = i := by
  cases hInt : f.toInt? with
  | none => simp [toInteger?, hInt]
  | some k => simp [toInteger?, hInt, and_assoc]

/-- The floating-point numbers with a given integer: the one that is exactly that integer, and for
the greatest integer also the power of two above it. The latter is no integer of 64 bits. -/
theorem toInteger?_decimal_iff {f : Binary64} {i : Int64} :
    (decimal f).toInteger? = some i ↔
      f.value? = some (i.toInt : Rat) ∨ f.value? = some (2 ^ 63) ∧ i = Int64.maxValue := by
  have hTop : ((2 ^ 63 : Int) : Rat) = 2 ^ 63 := by norm_num
  rw [toInteger?_decimal]
  constructor
  · rintro ⟨k, hInt, hLow, hHigh, hNearest⟩
    have hValue := Binary64.toInt?_eq_some_iff.mp hInt
    rcases (int64Nearest_eq_iff hLow hHigh).mp hNearest with rfl | ⟨rfl, hGreatest⟩
    · exact .inl hValue
    · rw [hTop] at hValue
      exact .inr ⟨hValue, hGreatest⟩
  · have hLow : -9223372036854775808 ≤ i.toInt := i.minValue_le_toInt
    have hMost : i.toInt ≤ 9223372036854775807 := i.toInt_le
    rintro (hValue | ⟨hValue, hGreatest⟩)
    · refine ⟨i.toInt, Binary64.toInt?_eq_some_iff.mpr hValue, hLow, by omega, ?_⟩
      exact int64Nearest_toInt i
    · rw [← hTop] at hValue
      refine ⟨2 ^ 63, Binary64.toInt?_eq_some_iff.mpr hValue, by omega, by omega, ?_⟩
      exact (int64Nearest_eq_iff (by omega) (by omega)).mpr (.inr ⟨rfl, hGreatest⟩)

/-- Below the power of two above the greatest integer, a floating-point number has an integer
exactly if its value is one. -/
theorem toInteger?_decimal_exact {f : Binary64} (h : f.value? ≠ some (2 ^ 63)) {i : Int64} :
    (decimal f).toInteger? = some i ↔ f.value? = some (i.toInt : Rat) := by
  simp [toInteger?_decimal_iff, h]

end Number

namespace NumberFormat

variable {f : Binary64} {locale : String}

/-- With an integer, an English position has the digits and the ending of that integer. -/
theorem format_ordinal_of_integer (hEnglish : Locale.language locale = "en") {i : Int64}
    (h : f.value? = some (i.toInt : Rat) ∨ f.value? = some (2 ^ 63) ∧ i = Int64.maxValue) :
    format (.decimal f) locale .ordinal =
      format (.integer i) locale .default ++ English.ordinalSuffix i.toInt.natAbs := by
  simp [format, hEnglish, ordinal, Number.toInteger?_decimal_iff.mpr h, String.ofList_append]

/-- A float without an integer of its own has no ending, and is written as in the usual style. -/
theorem format_ordinal_of_no_integer (hEnglish : Locale.language locale = "en")
    (h : ∀ i : Int64, f.value? ≠ some (i.toInt : Rat)) (hTop : f.value? ≠ some (2 ^ 63)) :
    format (.decimal f) locale .ordinal = format (.decimal f) locale .default := by
  have hNone : (Number.decimal f).toInteger? = none := by
    cases hInteger : (Number.decimal f).toInteger? with
    | none => rfl
    | some i => exact absurd ((Number.toInteger?_decimal_exact hTop).mp hInteger) (h i)
  simp [format, hEnglish, ordinal, hNone]

/-- The power of two above the greatest integer is written as the greatest integer. -/
example :
    let f : Binary64 := .finite false ⟨2 ^ 52, 11, by decide⟩
    f.value? = some (2 ^ 63) ∧ (Number.decimal f).toInteger? = some Int64.maxValue ∧
      format (.decimal f) "en" .ordinal = "9,223,372,036,854,775,807th" ∧
      format (.decimal f) "en" .default = "9,223,372,036,854,775,808" := by
  decide +kernel

end NumberFormat

end LocaleMessage
