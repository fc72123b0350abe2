import LocaleMessage.Proofs.NumberFormat.Currency

/-! Numbers with the opposite sign. Every style writes the same digits for them, and a number below
zero has a minus in front of all else, a leading currency included. Only what is written as zero
has none. -/
namespace LocaleMessage

/-- The number with the other sign, zero and the values that are no number included. -/
def Binary64.neg : Binary64 → Binary64
  | nan negative => nan !negative
  | infinite negative => infinite !negative
  | finite negative x => finite (!negative) x

/-- A number that is not negative, and the number with the opposite sign. The least integer has no
opposite, and zero has one as a float only. -/
inductive Number.Opposite : Number → Number → Prop where
  | integer {i : Int64} (positive : 0 < i.toInt) : Opposite (.integer i) (.integer (-i))
  | decimal {f : Binary64} (nonneg : (Number.decimal f).isNegative = false) :
      Opposite (.decimal f) (.decimal f.neg)

theorem toInt_neg_of_pos {i : Int64} (h : 0 < i.toInt) : (-i).toInt = -i.toInt := by
  have hHigh : i.toInt ≤ 9223372036854775807 := i.toInt_le
  rw [Int64.toInt_neg, Int.bmod_eq_of_le (by omega) (by omega)]

/-- Rounding to a float does not look at the sign. Zero is left out, because as an integer it has no
sign to change. -/
theorem Binary64.ofInt_neg {i : Int} (h : i ≠ 0) : ofInt (-i) = (ofInt i).neg := by
  have hSign : decide (-i < 0) = !decide (i < 0) := by
    rw [← decide_not, decide_eq_decide]
    omega
  rw [ofInt_eq, ofInt_eq, Int.natAbs_neg, hSign]
  cases Magnitude.ofRat? i.natAbs <;> rfl

/-- A hundred times the opposite is the opposite, also for infinity and what is no number. -/
theorem Binary64.timesHundred_neg (f : Binary64) : f.neg.timesHundred = f.timesHundred.neg := by
  cases f with
  | nan | infinite => rfl
  | finite negative x =>
      simp only [neg, timesHundred]
      cases Magnitude.ofRat? (100 * x.value) <;> rfl

/-- A hundred times a positive integer is at least one, also where it is rounded. It may be too
large to be finite. -/
theorem Binary64.timesHundred_ofInt_cases {i : Int} (h : 0 < i) :
    (ofInt i).timesHundred = infinite false ∨
      ∃ z : Magnitude, 1 ≤ z.value ∧ (ofInt i).timesHundred = finite false z := by
  rw [ofInt_eq, decide_eq_false (by omega)]
  cases hInteger : Magnitude.ofRat? i.natAbs with
  | none => exact .inl rfl
  | some y =>
      have hOne : (1 : Rat) ≤ i.natAbs := by
        exact_mod_cast Int.natAbs_pos.mpr h.ne'
      have hValue := Magnitude.one_le_of_ofRat? hOne hInteger
      simp only [ofMagnitude, timesHundred]
      cases hTimes : Magnitude.ofRat? (100 * y.value) with
      | none => exact .inl rfl
      | some z => exact .inr ⟨z, Magnitude.one_le_of_ofRat? (by linarith) hTimes, rfl⟩

namespace Number

/-- A hundred times a positive integer and a hundred times its opposite stay integers together, or
become floats together. -/
theorem timesHundred_integer {i : Int64} (h : 0 < i.toInt) :
    (∃ j : Int64, 0 < j.toInt ∧ NumberFormat.timesHundred (.integer i) = .integer j ∧
        NumberFormat.timesHundred (.integer (-i)) = .integer (-j)) ∨
      NumberFormat.timesHundred (.integer i) = .decimal (Binary64.ofInt i.toInt).timesHundred ∧
        NumberFormat.timesHundred (.integer (-i)) =
          .decimal (Binary64.ofInt i.toInt).timesHundred.neg := by
  have hSign := toInt_neg_of_pos h
  by_cases hRange : i.toInt * 100 ≤ 9223372036854775807
  · left
    obtain ⟨j, hValue⟩ : ∃ j : Int64, j.toInt = i.toInt * 100 :=
      ⟨Int64.ofInt (i.toInt * 100), Int64.toInt_ofInt_of_le (by omega) (by omega)⟩
    have hPositive : 0 < j.toInt := by omega
    have hMinus : (-i).toInt * 100 = (-j).toInt := by
      rw [hSign, toInt_neg_of_pos hPositive]
      omega
    refine ⟨j, hPositive, ?_, ?_⟩
    · simp only [NumberFormat.timesHundred, ← hValue, int64?_toInt]
    · simp only [NumberFormat.timesHundred, hMinus, int64?_toInt]
  · right
    have hNone : int64? (i.toInt * 100) = none := if_neg (by omega)
    have hNone' : int64? (-i.toInt * 100) = none := if_neg (by omega)
    simp only [NumberFormat.timesHundred, hSign, hNone, hNone',
      Binary64.ofInt_neg (by omega : i.toInt ≠ 0), Binary64.timesHundred_neg, and_self]

theorem isNegative_of_signBit {f : Binary64} (h : f.signBit = false) :
    (decimal f).isNegative = false := by
  rw [isNegative, h, Bool.false_and]

/-- A hundred times a number is negative only where the number is. Rounding the product does not
bring it below zero. -/
theorem isNegative_timesHundred {f : Binary64} (h : (decimal f).isNegative = false) :
    (decimal f.timesHundred).isNegative = false := by
  cases f with
  | nan | infinite => exact h
  | finite negative x =>
      cases negative with
      | false =>
          apply isNegative_of_signBit
          simp only [Binary64.timesHundred]
          cases Magnitude.ofRat? (100 * x.value) <;> rfl
      | true =>
          have hZero : x.significand = 0 := by
            simpa [isNegative, Binary64.signBit, Binary64.isZero] using h
          obtain rfl := Magnitude.eq_zero_of_significand hZero
          have hValue : 100 * Magnitude.zero.value = Magnitude.zero.value := by
            simp [Magnitude.value, Magnitude.zero]
          rw [Binary64.timesHundred, hValue, Magnitude.ofRat?_value]
          rfl

namespace Opposite

variable {n n' : Number}

theorem isNegative (h : Opposite n n') : n.isNegative = false := by
  cases h with
  | integer positive => exact decide_eq_false (by omega)
  | decimal nonneg => exact nonneg

/-- Only the opposite of zero is not negative. The sign of a zero float does not count. -/
theorem value_of_not_isNegative (h : Opposite n n') (hNegative : n'.isNegative = false) :
    n.value? = some 0 := by
  cases h with
  | @integer i positive =>
      have hSign : (-i).toInt < 0 := by
        rw [toInt_neg_of_pos positive]
        omega
      rw [Number.isNegative, decide_eq_true hSign] at hNegative
      contradiction
  | @decimal f nonneg =>
      cases f with
      | nan negative | infinite negative =>
          cases negative <;> contradiction
      | finite negative x =>
          have hZero : x.significand = 0 := by
            cases negative with
            | false => simpa [Number.isNegative, Binary64.signBit, Binary64.isZero, Binary64.neg]
                using hNegative
            | true => simpa [Number.isNegative, Binary64.signBit, Binary64.isZero] using nonneg
          simp [value?, Binary64.value?, Magnitude.value_eq_zero_iff.mpr hZero]

/-- The digits of a number do not depend on its sign. -/
theorem ofNumber (h : Opposite n n') (places : Nat) :
    NumberFormat.Digits.ofNumber places n' = NumberFormat.Digits.ofNumber places n := by
  cases h with
  | integer positive =>
      simp only [NumberFormat.Digits.ofNumber, toInt_neg_of_pos positive, Int.natAbs_neg]
  | @decimal f nonneg => cases f <;> rfl

/-- A hundred times two opposite numbers are opposite as well, whether or not an integer leaves its
range. That makes percentages a case of the rest. -/
theorem timesHundred (h : Opposite n n') :
    Opposite (NumberFormat.timesHundred n) (NumberFormat.timesHundred n') := by
  cases h with
  | decimal nonneg =>
      simp only [NumberFormat.timesHundred, Binary64.timesHundred_neg]
      exact .decimal (isNegative_timesHundred nonneg)
  | integer positive =>
      rcases timesHundred_integer positive with ⟨j, hPositive, hTimes, hTimes'⟩ | ⟨hTimes, hTimes'⟩
      · rw [hTimes, hTimes']
        exact .integer hPositive
      · rw [hTimes, hTimes']
        apply Opposite.decimal
        apply isNegative_of_signBit
        rcases Binary64.timesHundred_ofInt_cases positive with hInfinite | ⟨z, -, hFinite⟩
        · rw [hInfinite, Binary64.signBit]
        · rw [hFinite, Binary64.signBit]

end Opposite

end Number

namespace NumberFormat

open Number (Opposite)

def isNonzeroDigit (c : Char) : Bool :=
  c.isDigit && c ≠ '0'

/-- Whether the text has a digit that is not zero. It is asked of the finished text, with its symbol
and its separators. -/
def showsNonzero (text : List Char) : Bool :=
  text.any isNonzeroDigit

theorem isDigit_of_isNonzeroDigit (c : Char) (h : isNonzeroDigit c = true) : c.isDigit = true :=
  (Bool.and_eq_true_iff.mp h).1

theorem showsNonzero_congr {text text' : List Char}
    (h : text.filter isNonzeroDigit = text'.filter isNonzeroDigit) :
    showsNonzero text = showsNonzero text' := by
  have hFilter (text : List Char) :
      showsNonzero text = (text.filter isNonzeroDigit).any isNonzeroDigit := by
    simp [showsNonzero]
  rw [hFilter, hFilter, h]

/-- Digits show another one than zero exactly if they are not all zero. Characters that are no
digits would count as neither. -/
theorem showsNonzero_digits {digits : Digits}
    (h : ∀ c ∈ digits.integer ++ digits.fraction, c.isDigit = true) :
    showsNonzero (digits.integer ++ digits.fraction) = !digits.isZero := by
  rw [Bool.eq_iff_iff, Bool.not_eq_true', Digits.isZero_eq_false_iff, showsNonzero,
    List.any_eq_true]
  simp only [isNonzeroDigit, Bool.and_eq_true, decide_eq_true_eq]
  constructor
  · rintro ⟨c, hMem, -, hNe⟩
    exact ⟨c, hMem, hNe⟩
  · rintro ⟨c, hMem, hNe⟩
    exact ⟨c, hMem, h c hMem, hNe⟩

theorem opposite_shown {n n' : Number} (h : Opposite n n') (layout : Layout) :
    Opposite (shown layout n) (shown layout n') := by
  unfold shown
  split_ifs
  · exact h.timesHundred
  · exact h

variable {n n' : Number} {layout : Layout} {v : Rat}

/-- Zero is written in zeros only, with and without a sign. -/
theorem isZero_fitted_zero (h : n.value? = some 0) : (Digits.fitted layout n).isZero = true := by
  rw [Digits.isZero_iff_value fun c => Digits.isDigit_of_mem_fitted h]
  have hWrites := Digits.writes_fitted layout h
  match n with
  | .integer i =>
      have hValue : (i.toInt : Rat) = 0 := Option.some.inj h
      exact hWrites.trans (by rw [hValue, abs_zero])
  | .decimal f =>
      obtain ⟨v, hValue, units, hNearest, hUnits⟩ := hWrites
      obtain rfl := Option.some.inj (hValue.symm.trans h)
      have hNone : units = 0 := by
        apply hNearest.unique
        constructor <;> simp
      rw [hUnits, hNone]
      simp

/-- Opposite numbers are written alike, the second with a minus in front unless it is written as
zero. Infinity and what is no number are covered as well. -/
theorem decimal_opposite (h : Opposite n n') (layout : Layout) (locale : String) :
    decimal layout locale n' =
      (if (Digits.fitted layout (shown layout n)).isZero then [] else ['-']) ++
        decimal layout locale n := by
  have hShown := opposite_shown h layout
  have hDigits : Digits.fitted layout (shown layout n') = Digits.fitted layout (shown layout n) := by
    simp only [Digits.fitted, hShown.ofNumber]
  have hSign : ((shown layout n').isNegative && !(Digits.fitted layout (shown layout n)).isZero) =
      !(Digits.fitted layout (shown layout n)).isZero := by
    cases hNegative : (shown layout n').isNegative with
    | true => rfl
    | false =>
        rw [isZero_fitted_zero (hShown.value_of_not_isNegative hNegative)]
        rfl
  rw [decimal_eq, decimal_eq, hDigits, hSign, hShown.isNegative]
  cases (Digits.fitted layout (shown layout n)).isZero <;> rfl

/-- The text of a decimal shows a digit other than zero just if its digits are not all zero: neither
separators nor the percent sign are digits. -/
theorem showsNonzero_decimal (hValue : (shown layout n).value? = some v) (locale : String) :
    showsNonzero (decimal layout locale n) = !(Digits.fitted layout (shown layout n)).isZero := by
  rw [← showsNonzero_digits fun c => Digits.isDigit_of_mem_fitted hValue, decimal_eq]
  exact showsNonzero_congr (filter_render isDigit_of_isNonzeroDigit _ _ _ _)

theorem head?_grouped (separator digits : List Char) :
    (grouped separator digits).head? = digits.head? := by
  cases digits with
  | nil => rfl
  | cons c digits =>
      rw [grouped]
      split_ifs <;> rfl

theorem exists_head_ofNumber (places : Nat) (n : Number) :
    ∃ c, (Digits.ofNumber places n).integer.head? = some c ∧ c ≠ '-' := by
  have hDigits (k : Nat) : ∃ c, (decimalDigits k).head? = some c ∧ c ≠ '-' := by
    obtain ⟨c, cs, hCons⟩ := List.exists_cons_of_ne_nil (decimalDigits_ne_nil k)
    refine ⟨c, by rw [hCons, List.head?_cons], ?_⟩
    have hDigit : c.isDigit = true := isDigit_of_mem_decimalDigits (n := k) (by simp [hCons])
    rintro rfl
    contradiction
  match n with
  | .integer _ | .decimal (.finite _ _) => exact hDigits _
  | .decimal (.nan _) => exact ⟨'N', rfl, by decide⟩
  | .decimal (.infinite _) => exact ⟨'i', rfl, by decide⟩

/-- A number that is not negative is written without a sign. So a minus in front always comes from
the number. -/
theorem head?_decimal (h : Opposite n n') (layout : Layout) (locale : String) :
    (decimal layout locale n).head? ≠ some '-' := by
  obtain ⟨c, hInteger, hNe⟩ := exists_head_ofNumber layout.maxFraction (shown layout n)
  have hHead : (if layout.grouping then
      grouped (separators (Locale.language locale)).group
        (Digits.fitted layout (shown layout n)).integer
      else (Digits.fitted layout (shown layout n)).integer).head? = some c := by
    split_ifs
    · exact (head?_grouped _ _).trans hInteger
    · exact hInteger
  rw [decimal_eq, (opposite_shown h layout).isNegative, Digits.render, List.head?_append,
    List.head?_append, List.head?_append, hHead, Bool.false_and, if_neg Bool.false_ne_true]
  simpa using hNe

/-- Opposite amounts of money are written alike, with the minus in front of a leading symbol. A
trailing symbol stays where it is. -/
theorem money_opposite (h : Opposite n n') (locale : String) :
    money locale n' =
      (if (Digits.fitted (moneyLayout locale) (shown (moneyLayout locale) n)).isZero then []
        else ['-']) ++ money locale n := by
  have hHead := head?_decimal h (moneyLayout locale) locale
  have hDecimal := decimal_opposite h (moneyLayout locale) locale
  rw [money_of_head hHead]
  split_ifs at hDecimal ⊢ with hZero
  · rw [List.nil_append] at hDecimal ⊢
    rw [← hDecimal] at hHead ⊢
    exact money_of_head hHead
  · rw [money_of_minus hDecimal]
    simp only [withSymbol]
    split_ifs <;> rfl

theorem isZero_fitted_of_ne_zero (hValue : n.value? = some v)
    (h : (Digits.fitted layout n).value ≠ 0) : (Digits.fitted layout n).isZero = false := by
  rw [Bool.eq_false_iff]
  intro hZero
  exact h ((Digits.isZero_iff_value fun c => Digits.isDigit_of_mem_fitted hValue).mp hZero)

theorem isZero_fitted_integer {i : Int64} (h : 0 < i.toInt) :
    (Digits.fitted layout (.integer i)).isZero = false := by
  apply isZero_fitted_of_ne_zero rfl
  rw [Digits.value_fitted, Digits.value_integer, abs_ne_zero, Int.cast_ne_zero]
  omega

/-- From one on rounding leaves something, whatever the number of places. Below one it may leave
nothing. -/
theorem isZero_fitted_finite {x : Magnitude} (h : 1 ≤ x.value) :
    (Digits.fitted layout (.decimal (.finite false x))).isZero = false := by
  apply isZero_fitted_of_ne_zero rfl
  have hPlaces : (1 : Rat) ≤ 10 ^ layout.maxFraction := one_le_pow₀ (by norm_num)
  have hUnits : (x.toPlaces layout.maxFraction : Rat) ≠ 0 := by
    obtain ⟨-, hHigh⟩ := abs_le.mp (x.toPlaces_isNearestEven layout.maxFraction).near
    have hOne : 1 ≤ x.value * 10 ^ layout.maxFraction := one_le_mul_of_one_le_of_one_le h hPlaces
    rw [Int.cast_natCast] at hHigh
    linarith
  rw [Digits.value_fitted, Digits.value_finite]
  positivity

theorem isZero_fitted_infinite (negative : Bool) :
    (Digits.fitted layout (.decimal (.infinite negative))).isZero = false := by
  apply Digits.isZero_eq_false_iff.mpr
  exact ⟨'i', List.mem_append_left _ (List.mem_cons_self ..), by decide⟩

/-- A positive integer is not written as zero, neither as it is nor as a percentage. For a
percentage it may have to be rounded. -/
theorem isZero_shown_integer {i : Int64} (h : 0 < i.toInt) (layout : Layout) :
    (Digits.fitted layout (shown layout (.integer i))).isZero = false := by
  rw [shown]
  split_ifs
  · rcases Number.timesHundred_integer h with ⟨j, hPositive, hTimes, -⟩ | ⟨hTimes, -⟩
    · rw [hTimes]
      exact isZero_fitted_integer hPositive
    · rw [hTimes]
      rcases Binary64.timesHundred_ofInt_cases h with hInfinite | ⟨z, hOne, hFinite⟩
      · rw [hInfinite]
        exact isZero_fitted_infinite false
      · rw [hFinite]
        exact isZero_fitted_finite hOne
  · exact isZero_fitted_integer h

variable {i : Int64}

theorem decimal_neg_integer (h : 0 < i.toInt) (layout : Layout) (locale : String) :
    decimal layout locale (.integer (-i)) = '-' :: decimal layout locale (.integer i) := by
  rw [decimal_opposite (.integer h), isZero_shown_integer h]
  rfl

theorem money_neg_integer (h : 0 < i.toInt) (locale : String) :
    money locale (.integer (-i)) = '-' :: money locale (.integer i) := by
  rw [money_opposite (.integer h), isZero_shown_integer h]
  rfl

/-- Positions have the minus in front and the ending of the positive number behind. -/
theorem ordinal_neg_integer (h : 0 < i.toInt) (locale : String) :
    ordinal locale (.integer (-i)) = '-' :: ordinal locale (.integer i) := by
  simp only [ordinal, Number.toInteger?, decimal_neg_integer h, toInt_neg_of_pos h, Int.natAbs_neg,
    List.cons_append]

theorem duration_neg_integer (h : 0 < i.toInt) :
    duration (.integer (-i)) = '-' :: duration (.integer i) := by
  have hNegative : -i.toInt < 0 := by omega
  have hPositive : ¬ i.toInt < 0 := by omega
  simp only [duration, wholeSeconds?, toInt_neg_of_pos h, Int.natAbs_neg, if_pos hNegative,
    if_neg hPositive]
  rfl

theorem spelled_neg_integer (h : 0 < i.toInt) :
    English.spelled (.integer (-i)) = "minus " ++ English.spelled (.integer i) := by
  have hNegative : -i.toInt < 0 := by omega
  have hPositive : ¬ i.toInt < 0 := by omega
  simp [English.spelled, Number.isNegative, toInt_neg_of_pos h, hPositive, h]

/-- What stands in front of the text of a negative number. Only English words have a word for it. -/
def minusSign (locale : String) (style : NumberStyle) : String :=
  if style = .spellout ∧ Locale.language locale = "en" then "minus " else "-"

/-- In every style the negative integer is written as the positive one with this in front. No style
is left out. -/
theorem format_neg_integer (h : 0 < i.toInt) (locale : String) (style : NumberStyle) :
    format (.integer (-i)) locale style =
      minusSign locale style ++ format (.integer i) locale style := by
  have hMinus (text : List Char) : String.ofList ('-' :: text) = "-" ++ String.ofList text := by
    rw [← String.ofList_append]
    rfl
  cases style with
  | default | integer | percent | custom =>
      simp [format, minusSign, decimal_neg_integer h, hMinus]
  | currency => simp [format, minusSign, money_neg_integer h, hMinus]
  | duration => simp [format, minusSign, duration_neg_integer h, hMinus]
  | spellout =>
      by_cases hEnglish : Locale.language locale = "en"
      · have hSign : minusSign locale .spellout = "minus " := if_pos ⟨rfl, hEnglish⟩
        simp only [format, hSign, hEnglish, if_true, spelled_neg_integer h, String.ofList_toList]
      · simp [format, minusSign, hEnglish, decimal_neg_integer h, hMinus]
  | ordinal =>
      by_cases hEnglish : Locale.language locale = "en"
      · simp [format, minusSign, hEnglish, ordinal_neg_integer h, hMinus]
      · simp [format, minusSign, hEnglish, decimal_neg_integer h, hMinus]

variable {f : Binary64}

/-- What a layout writes of a finite float is finite, if a hundred times the float is. The condition
is only needed for percentages. -/
theorem shown_decimal_value (hValue : f.value? = some v) (hFinite : f.timesHundred.isFinite = true)
    (layout : Layout) : ∃ w, (shown layout (.decimal f)).value? = some w := by
  rw [shown]
  split_ifs
  · cases hHundred : f.timesHundred with
    | nan | infinite =>
        rw [hHundred] at hFinite
        contradiction
    | finite negative x => exact ⟨_, by rw [timesHundred, hHundred]; rfl⟩
  · exact ⟨v, hValue⟩

/-- The opposite float has the same text, behind a minus if the text shows a digit other
than zero. -/
theorem decimal_neg_decimal (hNonneg : (Number.decimal f).isNegative = false)
    (hValue : f.value? = some v) (hFinite : f.timesHundred.isFinite = true) (layout : Layout)
    (locale : String) : decimal layout locale (.decimal f.neg) =
      (if showsNonzero (decimal layout locale (.decimal f)) then ['-'] else []) ++
        decimal layout locale (.decimal f) := by
  obtain ⟨w, hShown⟩ := shown_decimal_value hValue hFinite layout
  rw [decimal_opposite (.decimal hNonneg), showsNonzero_decimal hShown]
  cases (Digits.fitted layout (shown layout (.decimal f))).isZero <;> rfl

theorem money_neg_decimal (hNonneg : (Number.decimal f).isNegative = false)
    (hValue : f.value? = some v) (hFinite : f.timesHundred.isFinite = true) (locale : String) :
    money locale (.decimal f.neg) =
      (if showsNonzero (money locale (.decimal f)) then ['-'] else []) ++
        money locale (.decimal f) := by
  obtain ⟨w, hShown⟩ := shown_decimal_value hValue hFinite (moneyLayout locale)
  have hNonzero : showsNonzero (money locale (.decimal f)) =
      !(Digits.fitted (moneyLayout locale) (shown (moneyLayout locale) (.decimal f))).isZero := by
    rw [← showsNonzero_decimal hShown locale]
    exact showsNonzero_congr (filter_money isDigit_of_isNonzeroDigit _ _)
  rw [money_opposite (.decimal hNonneg), hNonzero]
  cases (Digits.fitted (moneyLayout locale) (shown (moneyLayout locale) (.decimal f))).isZero <;> rfl

/-- In every style the text of a negative integer is that of the positive one behind a minus, or
behind the word for it. The text of a floating-point number below zero is that of the positive one
behind a minus if it shows a digit other than zero, and else the same text. -/
theorem format_neg (locale : String) (style : NumberStyle) :
    (∀ i : Int64, 0 < i → format (.integer (-i)) locale style =
        minusSign locale style ++ format (.integer i) locale style) ∧
      (style ∉ [.spellout, .ordinal, .duration] → ∀ f v, Binary64.value? f = some v → 0 ≤ v →
        f.timesHundred.isFinite = true → format (.decimal f.neg) locale style =
          (if showsNonzero (format (.decimal f) locale style).toList then "-" else "") ++
            format (.decimal f) locale style) := by
  constructor
  · intro i h
    exact format_neg_integer (Int64.lt_iff_toInt_lt.mp h) locale style
  · intro hStyle f v hValue hNonneg hFinite
    have hNumber : (Number.decimal f).value? = some v := hValue
    have hPositive : (Number.decimal f).isNegative = false := by
      rw [Bool.eq_false_iff]
      intro hNegative
      exact hNonneg.not_gt ((Number.isNegative_iff hNumber).mp hNegative)
    have hSign {text text' : List Char}
        (h : text' = (if showsNonzero text then ['-'] else []) ++ text) :
        String.ofList text' = (if showsNonzero (String.ofList text).toList then "-" else "") ++
          String.ofList text := by
      rw [h, String.ofList_append, String.toList_ofList]
      split_ifs <;> rfl
    cases style with
    | default | integer | percent | custom =>
        exact hSign (decimal_neg_decimal hPositive hValue hFinite _ locale)
    | currency => exact hSign (money_neg_decimal hPositive hValue hFinite locale)
    | spellout | ordinal | duration => simp at hStyle

/-- The greatest integer and an amount below half a cent: the minus is in front of the currency, and
the amount that is written as zero has none. -/
theorem format_neg_amounts :
    let f : Binary64 := .finite false ⟨2 ^ 52, -61, by decide⟩
    0 < Int64.maxValue ∧ format (.integer (-Int64.maxValue)) "en-US" .currency =
        "-$9,223,372,036,854,775,807.00" ∧
      NumberStyle.currency ∉ [.spellout, .ordinal, .duration] ∧ f.value? = some (1 / 512) ∧
      (0 : Rat) ≤ 1 / 512 ∧ f.timesHundred.isFinite = true ∧
      format (.decimal f.neg) "en-US" .currency = "$0.00" := by
  intro f
  have hPositive : 0 < Int64.maxValue := by decide
  have hStyle : NumberStyle.currency ∉ [.spellout, .ordinal, .duration] := by decide
  have hValue : f.value? = some (1 / 512) := by decide +kernel
  have hNonneg : (0 : Rat) ≤ 1 / 512 := by norm_num
  have hFinite : f.timesHundred.isFinite = true := by decide +kernel
  obtain ⟨hIntegers, hDecimals⟩ := format_neg "en-US" .currency
  refine ⟨hPositive, ?_, hStyle, hValue, hNonneg, hFinite, ?_⟩
  · rw [hIntegers Int64.maxValue hPositive]
    decide +kernel
  · rw [hDecimals hStyle f (1 / 512) hValue hNonneg hFinite]
    decide +kernel

end NumberFormat

end LocaleMessage
