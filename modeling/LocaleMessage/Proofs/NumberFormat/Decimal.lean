import LocaleMessage.NumberFormat
import LocaleMessage.Proofs.Binary64.Exact
import LocaleMessage.Proofs.Binary64.Rounding
import LocaleMessage.Proofs.Decimal
import Mathlib.Data.List.DropRight
import Mathlib.Tactic.FieldSimp

/-! Plain decimals, as styles without words, currencies and percent signs write them. Their shape is
that of the layout and of the language: the groups, the length of the fraction and the sign. Their
digits read back as the number, which is exact for integers and rounded to the last place of the
layout for floating-point numbers. -/
namespace LocaleMessage

/-- The exact value of a number that is finite. Floats are told by their binary value and not by
their text. -/
def Number.value? : Number → Option Rat
  | integer i => some i.toInt
  | decimal f => f.value?

/-- The sign counts for numbers below zero, and not for a zero that has one. -/
theorem Number.isNegative_iff {n : Number} {v : Rat} (h : n.value? = some v) :
    n.isNegative = true ↔ v < 0 := by
  match n with
  | .integer i =>
      obtain rfl : (i.toInt : Rat) = v := Option.some.inj h
      simp [isNegative]
  | .decimal (.finite negative x) =>
      obtain rfl : (if negative then -x.value else x.value) = v := Option.some.inj h
      by_cases hZero : x.significand = 0
      · have hValue := Magnitude.value_eq_zero_iff.mpr hZero
        simp [isNegative, Binary64.isZero, hZero, hValue]
      · have hPos := Magnitude.value_pos hZero
        cases negative <;> simp [isNegative, Binary64.isZero, Binary64.signBit, hZero, hPos, hPos.le]

/-- Rounding to places takes the nearest number of units, the even one of two. -/
theorem Magnitude.toPlaces_isNearestEven (x : Magnitude) (places : Nat) :
    Rounding.IsNearestEven (x.value * 10 ^ places) (x.toPlaces places) := by
  have hUnits : 0 ≤ x.value * 10 ^ places := mul_nonneg x.value_nonneg (by positivity)
  have hNearest := Rounding.halfEven_isNearestEven (x.value * 10 ^ places)
  have hNonneg : 0 ≤ Rounding.halfEven (x.value * 10 ^ places) := by
    obtain ⟨_, hHigh⟩ := abs_le.mp hNearest.near
    by_contra hNeg
    have hBelow : (Rounding.halfEven (x.value * 10 ^ places) : Rat) ≤ -1 := by
      exact_mod_cast Int.le_sub_one_of_lt (not_le.mp hNeg)
    linarith
  have hPlaces : (x.toPlaces places : Int) = Rounding.halfEven (x.value * 10 ^ places) := by
    rw [toPlaces, Nat.pow_eq, Nat.cast_pow, Nat.cast_ofNat, Int.toNat_of_nonneg hNonneg]
  rwa [hPlaces]

namespace NumberFormat

/-- The text has the digits in groups of three from the right, behind a first group of one to three,
with the separator between the groups. Only the integer part is written like this. -/
def InGroups (separator digits text : List Char) : Prop :=
  ∃ first groups, digits = first ++ groups.flatten ∧ 1 ≤ first.length ∧ first.length ≤ 3 ∧
    (∀ group ∈ groups, group.length = 3) ∧ text = separator.intercalate (first :: groups)

/-- Grouping gives just this shape, for every run of digits but the empty one. -/
theorem inGroups_grouped (separator : List Char) {digits : List Char} (h : digits ≠ []) :
    InGroups separator digits (grouped separator digits) := by
  induction digits with
  | nil => contradiction
  | cons c digits ih =>
      by_cases hNil : digits = []
      · subst hNil
        exact ⟨[c], [], rfl, le_rfl, by simp, by simp, by simp [grouped]⟩
      · obtain ⟨first, groups, hDigits, hLeast, hMost, hThree, hText⟩ := ih hNil
        have hLength : digits.length = first.length + 3 * groups.length := by
          rw [hDigits, List.length_append, List.length_flatten, List.map_congr_left hThree]
          simp [mul_comm]
        -- A group is complete where the digits that follow are so many threes.
        by_cases hFull : digits.length % 3 = 0
        · have hFirst : first.length = 3 := by omega
          refine ⟨[c], first :: groups, by simp [hDigits], le_rfl, by simp, ?_, ?_⟩
          · simpa [hFirst] using hThree
          · simp [grouped, hFull, hNil, hText, List.intercalate_cons_cons]
        · refine ⟨c :: first, groups, by simp [hDigits], by simp, ?_, hThree, ?_⟩
          · have hNotThree : first.length ≠ 3 := by omega
            simp only [List.length_cons]
            omega
          · simp only [grouped, hFull, hText]
            cases groups <;> simp [List.intercalate_cons_cons]

/-- Separators aside, the groups have the characters of the digits. The test may be any that no
separator passes. -/
theorem filter_grouped {separator : List Char} {p : Char → Bool} (h : separator.filter p = [])
    (digits : List Char) : (grouped separator digits).filter p = digits.filter p := by
  induction digits with
  | nil => rfl
  | cons c digits ih =>
      rw [grouped]
      split_ifs
      · rw [← List.singleton_append, List.filter_append, List.filter_append, h, List.nil_append, ih,
          ← List.filter_append, List.singleton_append]
      · rw [← List.singleton_append, List.filter_append, ih, ← List.filter_append,
          List.singleton_append]

/-- A run of digits is what is left without the zeros at its end, and so many zeros. -/
theorem exists_append_zeros (digits : List Char) :
    ∃ k, digits = digits.rdropWhile (· = '0') ++ List.replicate k '0' := by
  induction digits using List.reverseRecOn with
  | nil => exact ⟨0, rfl⟩
  | append_singleton digits c ih =>
      by_cases hZero : c = '0'
      · obtain ⟨k, hDigits⟩ := ih
        refine ⟨k + 1, ?_⟩
        rw [List.rdropWhile_concat_pos _ _ _ (by simpa using hZero), hZero, List.replicate_succ',
          ← List.append_assoc, ← hDigits]
      · exact ⟨0, by rw [List.rdropWhile_concat_neg _ _ _ (by simpa using hZero)]; simp⟩

theorem fitFraction_of_length_le {least : Nat} {fraction : List Char}
    (h : fraction.length ≤ least) :
    fitFraction least fraction = fraction ++ List.replicate (least - fraction.length) '0' := by
  simp [fitFraction, List.take_of_length_le h, List.drop_of_length_le h]

theorem fitFraction_of_le_length {least : Nat} {fraction : List Char}
    (h : least ≤ fraction.length) :
    fitFraction least fraction =
      fraction.take least ++ (fraction.drop least).rdropWhile (· = '0') := by
  simp [fitFraction, List.rdropWhile, Nat.sub_eq_zero_of_le h]

/-- A fraction is fitted by zeros at its end only: some are put there or some are taken off. -/
theorem exists_fitFraction (least : Nat) (fraction : List Char) :
    ∃ k l, fraction ++ List.replicate k '0' = fitFraction least fraction ++ List.replicate l '0' := by
  rcases Nat.le_total fraction.length least with hShort | hLong
  · exact ⟨least - fraction.length, 0, by simp [fitFraction_of_length_le hShort]⟩
  · obtain ⟨k, hRest⟩ := exists_append_zeros (fraction.drop least)
    refine ⟨0, k, ?_⟩
    rw [fitFraction_of_le_length hLong, List.append_assoc, ← hRest]
    simp

theorem le_length_fitFraction (least : Nat) (fraction : List Char) :
    least ≤ (fitFraction least fraction).length := by
  simp only [fitFraction, List.length_append, List.length_take, List.length_replicate]
  omega

theorem length_fitFraction_le (least : Nat) (fraction : List Char) :
    (fitFraction least fraction).length ≤ max least fraction.length := by
  rcases Nat.le_total fraction.length least with hShort | hLong
  · rw [fitFraction_of_length_le hShort, List.length_append, List.length_replicate]
    omega
  · have hRest := (List.rdropWhile_prefix (· = '0') (fraction.drop least)).length_le
    rw [List.length_drop] at hRest
    rw [fitFraction_of_le_length hLong, List.length_append, List.length_take]
    omega

/-- Beyond the least length no zero is left at the end. -/
theorem getLast?_fitFraction {least : Nat} {fraction : List Char}
    (h : least < (fitFraction least fraction).length) :
    (fitFraction least fraction).getLast? ≠ some '0' := by
  have hMost := length_fitFraction_le least fraction
  have hLong : least ≤ fraction.length := by omega
  rw [fitFraction_of_le_length hLong] at h ⊢
  have hSpare : (fraction.drop least).rdropWhile (· = '0') ≠ [] := by
    intro hNil
    rw [hNil, List.append_nil, List.length_take] at h
    omega
  have hLast := List.rdropWhile_last_not _ _ hSpare
  rw [List.getLast?_append_of_ne_nil _ hSpare, List.getLast?_eq_some_getLast hSpare]
  simpa using hLast

theorem isDigit_of_mem_fitFraction {least : Nat} {fraction : List Char}
    (h : ∀ c ∈ fraction, c.isDigit = true) {c : Char} (hMem : c ∈ fitFraction least fraction) :
    c.isDigit = true := by
  obtain ⟨k, l, hFit⟩ := exists_fitFraction least fraction
  have hAll : c ∈ fraction ++ List.replicate k '0' := by
    rw [hFit]
    exact List.mem_append_left _ hMem
  rcases List.mem_append.mp hAll with hDigit | hZero
  · exact h c hDigit
  · rw [List.eq_of_mem_replicate hZero]
    rfl

namespace Digits

/-- The number that the digits stand for, with the point in front of the fraction. No sign belongs
to it. -/
def value (digits : Digits) : Rat :=
  digitsValue (digits.integer ++ digits.fraction) / 10 ^ digits.fraction.length

theorem value_append_zeros (integer fraction : List Char) (k : Nat) :
    value ⟨integer, fraction ++ List.replicate k '0'⟩ = value ⟨integer, fraction⟩ := by
  simp only [value, ← List.append_assoc, digitsValue_append, digitsValue_replicate_zero,
    List.length_append, List.length_replicate, pow_add]
  push_cast
  field_simp
  ring

/-- Fitting a fraction leaves the value as it is, since it is only about zeros. -/
theorem value_fitFraction (least : Nat) (integer fraction : List Char) :
    value ⟨integer, fitFraction least fraction⟩ = value ⟨integer, fraction⟩ := by
  obtain ⟨k, l, hFit⟩ := exists_fitFraction least fraction
  rw [← value_append_zeros integer fraction k, hFit, value_append_zeros]

theorem integer_ofNumber_ne_nil (places : Nat) (n : Number) : (ofNumber places n).integer ≠ [] := by
  match n with
  | .integer _ | .decimal (.finite _ _) => exact decimalDigits_ne_nil _
  | .decimal (.nan _) | .decimal (.infinite _) => simp [ofNumber]

/-- A finite float has all places in its fraction before it is fitted, an integer none. -/
theorem length_fraction_finite (places : Nat) (negative : Bool) (x : Magnitude) :
    (ofNumber places (.decimal (.finite negative x))).fraction.length = places := by
  by_cases hPlaces : places = 0
  · simp [ofNumber, hPlaces]
  · have hRest : x.toPlaces places % 10 ^ places < 10 ^ places := Nat.mod_lt _ (by positivity)
    simp [ofNumber, hPlaces, length_paddedDigits hPlaces hRest]

theorem length_fraction_le (places : Nat) (n : Number) :
    (ofNumber places n).fraction.length ≤ places := by
  match n with
  | .integer _ | .decimal (.nan _) | .decimal (.infinite _) => exact Nat.zero_le _
  | .decimal (.finite negative x) => exact (length_fraction_finite places negative x).le

/-- The digits of a finite number are digits. Infinity and what is no number would have letters in
their place. -/
theorem isDigit_of_mem_ofNumber {places : Nat} {n : Number} {v : Rat} (h : n.value? = some v)
    {c : Char} (hMem : c ∈ (ofNumber places n).integer ++ (ofNumber places n).fraction) :
    c.isDigit = true := by
  rcases List.mem_append.mp hMem with hFront | hBehind
  · match n with
    | .integer _ | .decimal (.finite _ _) => exact isDigit_of_mem_decimalDigits hFront
  · match n with
    | .decimal (.finite _ _) =>
        simp only [ofNumber] at hBehind
        split_ifs at hBehind
        · contradiction
        · exact isDigit_of_mem_paddedDigits hBehind

theorem isDigit_of_mem_fitted {layout : Layout} {n : Number} {v : Rat} (h : n.value? = some v)
    {c : Char} (hMem : c ∈ (fitted layout n).integer ++ (fitted layout n).fraction) :
    c.isDigit = true := by
  rcases List.mem_append.mp hMem with hFront | hBehind
  · exact isDigit_of_mem_ofNumber h (List.mem_append_left _ hFront)
  · apply isDigit_of_mem_fitFraction _ hBehind
    intro c hMem
    exact isDigit_of_mem_ofNumber h (List.mem_append_right _ hMem)

/-- The digits of an integer stand for it without its sign, with no rounding. -/
theorem value_integer (places : Nat) (i : Int64) :
    (ofNumber places (.integer i)).value = |(i.toInt : Rat)| := by
  simp [ofNumber, value]

/-- Behind the point stand as many digits as the number of units was divided by. So the digits stand
for the rounded number. -/
theorem value_finite (places : Nat) (negative : Bool) (x : Magnitude) :
    (ofNumber places (.decimal (.finite negative x))).value = x.toPlaces places / 10 ^ places := by
  rw [value, length_fraction_finite, digitsValue_append, length_fraction_finite]
  simp only [ofNumber, Nat.pow_eq, digitsValue_decimalDigits]
  split_ifs with hPlaces
  · simp [hPlaces, digitsValue]
  · rw [digitsValue_paddedDigits, Nat.div_add_mod']

/-- What a layout asks of digits: at least one before the point, and behind it as many as the layout
allows, without a zero at the end that it does not ask for. -/
structure Fits (layout : Layout) (digits : Digits) : Prop where
  nonempty : digits.integer ≠ []
  isDigit : ∀ c ∈ digits.integer ++ digits.fraction, c.isDigit = true
  least : layout.minFraction ≤ digits.fraction.length
  most : digits.fraction.length ≤ layout.maxFraction
  last : layout.minFraction < digits.fraction.length → digits.fraction.getLast? ≠ some '0'

/-- What is written for a finite number fits its layout. The bounds of the layout must not
contradict each other. -/
theorem fits_fitted {layout : Layout} (hLayout : layout.minFraction ≤ layout.maxFraction)
    {n : Number} {v : Rat} (h : n.value? = some v) : (fitted layout n).Fits layout := by
  constructor
  · exact integer_ofNumber_ne_nil _ n
  · exact fun c => isDigit_of_mem_fitted h
  · exact le_length_fitFraction _ _
  · exact (length_fitFraction_le _ _).trans (max_le hLayout (length_fraction_le _ n))
  · exact getLast?_fitFraction

/-- What the digits written for a number stand for: an integer without its sign, or a floating-point
number without its sign rounded to places. -/
def Writes (places : Nat) (digits : Digits) : Number → Prop
  | .integer i => digits.value = |(i.toInt : Rat)|
  | .decimal f => ∃ v, f.value? = some v ∧ Rounding.RoundsToPlaces places |v| digits.value

theorem value_fitted (layout : Layout) (n : Number) :
    (fitted layout n).value = (ofNumber layout.maxFraction n).value :=
  value_fitFraction _ _ _

/-- What is written for a finite number stands for it. Fitting does not round a second time. -/
theorem writes_fitted (layout : Layout) {n : Number} {v : Rat} (h : n.value? = some v) :
    (fitted layout n).Writes layout.maxFraction n := by
  match n with
  | .integer i => exact (value_fitted layout (.integer i)).trans (value_integer _ i)
  | .decimal (.finite negative x) =>
      refine ⟨v, h, x.toPlaces layout.maxFraction, ?_, ?_⟩
      · rw [← Binary64.value_eq_abs h]
        exact x.toPlaces_isNearestEven _
      · rw [value_fitted, value_finite, Int.cast_natCast]

theorem isZero_eq_false_iff {digits : Digits} :
    digits.isZero = false ↔ ∃ c ∈ digits.integer ++ digits.fraction, c ≠ '0' := by
  rw [isZero, List.all_eq_false]
  simp only [decide_eq_true_eq, ne_eq]

/-- Digits that are all zero stand for zero, and no others do. This is why the sign can go by the
digits. -/
theorem isZero_iff_value {digits : Digits}
    (h : ∀ c ∈ digits.integer ++ digits.fraction, c.isDigit = true) :
    digits.isZero = true ↔ digits.value = 0 := by
  have hPlaces : (10 : Rat) ^ digits.fraction.length ≠ 0 := by positivity
  rw [isZero, List.all_eq_true, value, div_eq_zero_iff, or_iff_left hPlaces, Nat.cast_eq_zero,
    digitsValue_eq_zero_iff h]
  simp only [decide_eq_true_eq]

end Digits

/-- The number whose digits a layout writes, which for a percentage is a hundred times
the number. -/
def shown (layout : Layout) (n : Number) : Number :=
  if layout.percent then timesHundred n else n

theorem decimal_eq (layout : Layout) (locale : String) (n : Number) :
    decimal layout locale n =
      (Digits.fitted layout (shown layout n)).render (separators (Locale.language locale)) layout
        ((shown layout n).isNegative && !(Digits.fitted layout (shown layout n)).isZero) :=
  rfl

theorem isDigit_separators (language : String) :
    ∀ c ∈ (separators language).decimal ++ (separators language).group, c.isDigit = false := by
  unfold separators
  split_ifs <;> simp

/-- No other characters pass a test that only digits can pass. -/
theorem filter_eq_nil {p : Char → Bool} (hDigit : ∀ c, p c = true → c.isDigit = true)
    {text : List Char} (h : ∀ c ∈ text, c.isDigit = false) : text.filter p = [] := by
  apply List.filter_eq_nil_iff.mpr
  intro c hMem hTrue
  have hFalse := h c hMem
  rw [hDigit c hTrue] at hFalse
  contradiction

/-- All digits of a text are those of the number that it is written for: separators and signs have
none. -/
theorem filter_render {p : Char → Bool} (hDigit : ∀ c, p c = true → c.isDigit = true)
    (language : String) (layout : Layout) (negative : Bool) (digits : Digits) :
    (digits.render (separators language) layout negative).filter p =
      (digits.integer ++ digits.fraction).filter p := by
  obtain ⟨hDecimal, hGroup⟩ := List.forall_mem_append.mp (isDigit_separators language)
  have hSign : (if negative then ['-'] else []).filter p = [] := by
    apply filter_eq_nil hDigit
    split_ifs <;> simp
  have hInteger : (if layout.grouping then grouped (separators language).group digits.integer
      else digits.integer).filter p = digits.integer.filter p := by
    split_ifs
    · exact filter_grouped (filter_eq_nil hDigit hGroup) digits.integer
    · rfl
  have hFraction : (if digits.fraction.isEmpty then []
      else (separators language).decimal ++ digits.fraction).filter p =
        digits.fraction.filter p := by
    split_ifs with hEmpty
    · rw [List.isEmpty_iff.mp hEmpty]
    · rw [List.filter_append, filter_eq_nil hDigit hDecimal, List.nil_append]
  have hPercent : (if layout.percent then ['%'] else []).filter p = [] := by
    apply filter_eq_nil hDigit
    split_ifs <;> simp
  rw [Digits.render, List.filter_append, List.filter_append, List.filter_append, hSign, hInteger,
    hFraction, hPercent, List.append_nil, List.nil_append, List.filter_append]

/-- The text has the digits in the shape of the layout: behind a minus or no sign the integer, in
groups if the layout asks for them, and behind the separator the fraction, if there is one. -/
def IsDecimalText (layout : Layout) (separators : Separators) (negative : Bool) (digits : Digits)
    (text : List Char) : Prop :=
  ∃ integer, text = (if negative then ['-'] else []) ++ integer ++
      (if digits.fraction = [] then [] else separators.decimal ++ digits.fraction) ∧
    if layout.grouping then InGroups separators.group digits.integer integer
    else integer = digits.integer

/-- Without a percent sign a layout gives this shape, for all digits with an integer part. -/
theorem isDecimalText_render {layout : Layout} (h : layout.percent = false)
    (separators : Separators) (negative : Bool) {digits : Digits} (hDigits : digits.integer ≠ []) :
    IsDecimalText layout separators negative digits (digits.render separators layout negative) := by
  refine ⟨if layout.grouping then grouped separators.group digits.integer else digits.integer,
    ?_, ?_⟩
  · simp [Digits.render, h]
  · split_ifs
    · exact inGroups_grouped _ hDigits
    · rfl

/-- The styles that write plain decimals, with their layouts: the usual one, that of integers, and
the patterns without a percent sign at their end. -/
inductive WritesDecimals : NumberStyle → Layout → Prop
  | default : WritesDecimals .default .default
  | integer : WritesDecimals .integer .integer
  | custom {text : String} {layout : Layout} (pattern : Layout.ofPattern? text.toList = some layout)
      (plain : text.toList.getLast? ≠ some '%') : WritesDecimals (.custom text) layout

namespace WritesDecimals

variable {style : NumberStyle} {layout : Layout}

theorem percent (h : WritesDecimals style layout) : layout.percent = false := by
  cases h with
  | default | integer => rfl
  | custom pattern plain =>
      unfold Layout.ofPattern? at pattern
      split_ifs at pattern
      obtain rfl := Option.some.inj pattern
      exact decide_eq_false plain

/-- Layouts of these styles do not contradict themselves. For a pattern this follows from how its
places are counted. -/
theorem minFraction_le (h : WritesDecimals style layout) :
    layout.minFraction ≤ layout.maxFraction := by
  cases h with
  | default | integer => decide
  | custom pattern plain =>
      unfold Layout.ofPattern? at pattern
      split_ifs at pattern
      obtain rfl := Option.some.inj pattern
      exact Nat.le_add_right _ _

theorem format_eq (h : WritesDecimals style layout) (n : Number) (locale : String) :
    format n locale style = String.ofList (decimal layout locale n) := by
  cases h with
  | default | integer => rfl
  | custom pattern plain => simp [format, customLayout, pattern]

end WritesDecimals

/-- A finite number is written in digits as its style asks, with a minus exactly if it is negative
and not written as zero, and the digits read back as the number, up to the rounding of a
floating-point number to the last place that the style allows. -/
theorem format_isDecimalText {n : Number} {v : Rat} (hValue : n.value? = some v)
    {style : NumberStyle} {layout : Layout} (hStyle : WritesDecimals style layout)
    (locale : String) :
    ∃ (negative : Bool) (digits : Digits),
      IsDecimalText layout (separators (Locale.language locale)) negative digits
        (format n locale style).toList ∧
      digits.Fits layout ∧
      (negative = true ↔ v < 0 ∧ ∃ c ∈ digits.integer ++ digits.fraction, c ≠ '0') ∧
      digits.Writes layout.maxFraction n := by
  have hFits := Digits.fits_fitted hStyle.minFraction_le hValue
  refine ⟨n.isNegative && !(Digits.fitted layout n).isZero, Digits.fitted layout n, ?_, hFits, ?_,
    Digits.writes_fitted layout hValue⟩
  · rw [hStyle.format_eq, String.toList_ofList, decimal]
    simp only [hStyle.percent, Bool.false_eq_true, if_false]
    exact isDecimalText_render hStyle.percent _ _ hFits.nonempty
  · rw [Bool.and_eq_true, Bool.not_eq_true', Number.isNegative_iff hValue,
      Digits.isZero_eq_false_iff]

/-- In the middle between two numbers of two places the even one is written, here with points
between the groups. -/
theorem format_isDecimalText_half :
    let n : Number := .decimal (.finite true ⟨9876537 * 2 ^ 29, -32, by decide⟩)
    n.value? = some (-9876537 / 8) ∧ WritesDecimals (.custom "#,##0.0#") ⟨1, 2, true, false⟩ ∧
      format n "de" (.custom "#,##0.0#") = "-1.234.567,12" ∧
      ∃ (negative : Bool) (digits : Digits),
        IsDecimalText ⟨1, 2, true, false⟩ (separators (Locale.language "de")) negative digits
          "-1.234.567,12".toList ∧
        digits.Fits ⟨1, 2, true, false⟩ ∧
        (negative = true ↔
          (-9876537 / 8 : Rat) < 0 ∧ ∃ c ∈ digits.integer ++ digits.fraction, c ≠ '0') ∧
        digits.Writes 2 n := by
  intro n
  have hValue : n.value? = some (-9876537 / 8) := by decide +kernel
  have hStyle : WritesDecimals (.custom "#,##0.0#") ⟨1, 2, true, false⟩ :=
    .custom (by decide) (by decide)
  have hText : format n "de" (.custom "#,##0.0#") = "-1.234.567,12" := by decide +kernel
  have hWritten := format_isDecimalText hValue hStyle "de"
  rw [hText] at hWritten
  exact ⟨hValue, hStyle, hText, hWritten⟩

end NumberFormat

end LocaleMessage
