import LocaleMessage.Proofs.NumberFormat.Currency

/-! Values that are not finite are written by their names. The only digits in their texts are the
zeros of the fractions that currencies and patterns always write. -/
namespace LocaleMessage.NumberFormat

/-- The value has a name and no digits. Its sign is a part of it, also where it is no number. -/
inductive NotFinite : Number → Prop
  | nan (negative : Bool) : NotFinite (.decimal (.nan negative))
  | infinite (negative : Bool) : NotFinite (.decimal (.infinite negative))

theorem notFinite_of_value? {n : Number} (h : n.value? = none) : NotFinite n := by
  cases n with
  | integer i => contradiction
  | decimal f =>
      cases f with
      | nan negative => exact .nan negative
      | infinite negative => exact .infinite negative
      | finite negative x => contradiction

variable {n : Number}

namespace NotFinite

/-- A hundred times such a value is the same value. So the style for percentages writes the same
name. -/
theorem shown_eq (h : NotFinite n) (layout : Layout) : shown layout n = n := by
  rw [shown]
  cases h <;> split_ifs <;> rfl

/-- The name stands in the place of the integer. The fraction is empty until it is filled, with
zeros up to the least length. -/
theorem filter_fitted (h : NotFinite n) (layout : Layout) :
    ((Digits.fitted layout n).integer ++ (Digits.fitted layout n).fraction).filter Char.isDigit =
      List.replicate layout.minFraction '0' := by
  have hInteger : (Digits.fitted layout n).integer.filter Char.isDigit = [] := by
    cases h <;> rfl
  have hFraction : (Digits.fitted layout n).fraction = fitFraction layout.minFraction [] := by
    cases h <;> rfl
  rw [List.filter_append, hInteger, hFraction, fitFraction_of_length_le (Nat.zero_le _),
    List.nil_append, List.nil_append, List.filter_replicate]
  rfl

/-- Separators, signs and percent signs add no digits. -/
theorem filter_decimal (h : NotFinite n) (layout : Layout) (locale : String) :
    (decimal layout locale n).filter Char.isDigit = List.replicate layout.minFraction '0' := by
  rw [decimal_eq, filter_render fun _ hDigit => hDigit, h.shown_eq, h.filter_fitted]

theorem filter_text (h : NotFinite n) : n.text.toList.filter Char.isDigit = [] := by
  cases h with
  | nan negative => cases negative <;> decide +kernel
  | infinite negative => cases negative <;> decide +kernel

/-- In words the name stands alone, with its sign. There is no fraction to be filled there. -/
theorem spelled_eq (h : NotFinite n) : English.spelled n = n.text := by
  cases h <;> rfl

theorem duration_eq (h : NotFinite n) : duration n = n.text.toList := by
  cases h <;> rfl

theorem ordinal_eq (h : NotFinite n) (locale : String) :
    ordinal locale n = decimal .default locale n := by
  cases h <;> rfl

end NotFinite

/-- How many digits of a fraction a style writes even if they are zeros. Styles without decimals
write none. -/
def leastFraction (locale : String) : NumberStyle → Nat
  | .currency => (moneyLayout locale).minFraction
  | .custom text => (customLayout text).minFraction
  | _ => 0

/-- The digits in the text of a value that is not finite are the zeros that the style fills a
fraction with, and no others. Only currencies and patterns fill one. -/
theorem format_not_finite (h : n.value? = none) (locale : String) (style : NumberStyle) :
    (format n locale style).toList.filter Char.isDigit =
      List.replicate (leastFraction locale style) '0' := by
  have hName := notFinite_of_value? h
  have hDecimal (layout : Layout) := hName.filter_decimal layout locale
  unfold format
  rw [String.toList_ofList]
  cases style with
  | default | integer | percent | custom => exact hDecimal _
  | currency => exact (filter_money (fun _ hDigit => hDigit) locale n).trans (hDecimal _)
  | duration =>
      dsimp only
      rw [hName.duration_eq]
      exact hName.filter_text
  | spellout =>
      dsimp only
      split_ifs
      · rw [hName.spelled_eq]
        exact hName.filter_text
      · exact hDecimal .default
  | ordinal =>
      dsimp only
      split_ifs
      · rw [hName.ordinal_eq]
        exact hDecimal .default
      · exact hDecimal .default

example : format (.decimal (.nan false)) "en" .currency = "$NaN.00" := by decide +kernel

end LocaleMessage.NumberFormat
