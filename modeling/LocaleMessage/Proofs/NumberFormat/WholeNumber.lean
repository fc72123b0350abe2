import LocaleMessage.Proofs.Compiled.Agreement
import LocaleMessage.Proofs.NumberFormat.IntegerView
import LocaleMessage.Session

/-! Whole numbers are written alike whether they are given as integers or as floating-point numbers.
The two take different ways through every style, one by its digits and the other by rounding to
places or by its shortest decimal, and up to the bound where an offset and a percentage still leave
integers of 53 bits the ways meet. -/
namespace LocaleMessage

open Binary64 (ofInt)

/-- Integers of 63 bits are within the range. The least integer of all is left out here, as it never
comes from a number of 53 bits. -/
theorem int64?_eq_some {i : Int} (h : i.natAbs < 2 ^ 63) :
    ∃ j : Int64, int64? i = some j ∧ j.toInt = i := by
  refine ⟨Int64.ofInt i, ?_, Int64.toInt_ofInt_of_le (by omega) (by omega)⟩
  rw [int64?, if_pos (by omega)]

theorem paddedDigits_zero {width : Nat} (h : width ≠ 0) :
    paddedDigits width 0 = List.replicate width '0' := by
  obtain ⟨rest, rfl⟩ := Nat.exists_eq_succ_of_ne_zero h
  have hDigits : decimalDigits 0 = ['0'] := rfl
  simp [paddedDigits, hDigits, List.replicate_succ']

namespace NumberFormat

/-- A fraction of zeros is fitted to the least number of digits, however many zeros it has. So a
fraction that rounding has made leaves no trace. -/
theorem fitFraction_replicate (least places : Nat) :
    fitFraction least (List.replicate places '0') = List.replicate least '0' := by
  have hSpare : ((List.replicate places '0').drop least).reverse.dropWhile (· = '0') = [] := by
    simp
  simp only [fitFraction, hSpare, List.reverse_nil, List.append_nil, List.take_replicate,
    List.length_replicate, List.replicate_append_replicate]
  congr 1
  omega

variable {i : Int64}

theorem ofNumber_integer (places : Nat) :
    Digits.ofNumber places (.integer i) = ⟨decimalDigits i.toInt.natAbs, []⟩ :=
  rfl

/-- Rounded to places, a whole number has its digits and zeros behind the point. The bound is that
below which the number is exact. -/
theorem ofNumber_ofInt (h : i.toInt.natAbs < 2 ^ 53) (places : Nat) :
    Digits.ofNumber places (.decimal (ofInt i.toInt)) =
      ⟨decimalDigits i.toInt.natAbs, List.replicate places '0'⟩ := by
  obtain ⟨x, hx, hInt⟩ := Binary64.exists_ofInt_eq h
  have hScale : 0 < 10 ^ places := by positivity
  rw [hInt]
  simp only [Digits.ofNumber, Magnitude.toPlaces_of_value hx, Nat.pow_eq,
    Nat.mul_div_cancel _ hScale, Nat.mul_mod_left]
  split_ifs with hPlaces
  · simp [hPlaces]
  · rw [paddedDigits_zero hPlaces]

/-- After fitting, the zeros that make the difference are gone, and the digits are the same on both
ways. -/
theorem fitted_ofInt (h : i.toInt.natAbs < 2 ^ 53) (layout : Layout) :
    Digits.fitted layout (.decimal (ofInt i.toInt)) = Digits.fitted layout (.integer i) := by
  have hNil := fitFraction_replicate layout.minFraction 0
  rw [List.replicate_zero] at hNil
  simp only [Digits.fitted, ofNumber_ofInt h, ofNumber_integer, fitFraction_replicate, hNil]

theorem isNegative_ofInt (h : i.toInt.natAbs < 2 ^ 53) :
    (Number.decimal (ofInt i.toInt)).isNegative = (Number.integer i).isNegative := by
  simp only [Number.isNegative, Binary64.signBit_ofInt h, Binary64.isZero_ofInt h]
  grind

/-- A hundred times a whole number is a whole number again, on both ways. The bound is on the
product, so that neither way rounds or leaves its range. -/
theorem exists_timesHundred (h : (i.toInt * 100).natAbs < 2 ^ 53) :
    ∃ j : Int64, j.toInt.natAbs < 2 ^ 53 ∧ timesHundred (.integer i) = .integer j ∧
      timesHundred (.decimal (ofInt i.toInt)) = .decimal (ofInt j.toInt) := by
  obtain ⟨j, hInteger, hValue⟩ := int64?_eq_some (by omega : (i.toInt * 100).natAbs < 2 ^ 63)
  refine ⟨j, by rwa [hValue], ?_, ?_⟩
  · rw [timesHundred, hInteger]
  · rw [timesHundred, Binary64.timesHundred_ofInt (by omega), hValue]

/-- Layouts write whole numbers alike. The bound leaves room for a percentage, whether the layout
asks for one or not. -/
theorem decimal_ofInt (h : (i.toInt * 100).natAbs < 2 ^ 53) (layout : Layout) (locale : String) :
    decimal layout locale (.decimal (ofInt i.toInt)) = decimal layout locale (.integer i) := by
  unfold decimal
  cases layout.percent with
  | false =>
      have hSmall : i.toInt.natAbs < 2 ^ 53 := by omega
      simp only [Bool.false_eq_true, if_false, fitted_ofInt hSmall, isNegative_ofInt hSmall]
  | true =>
      obtain ⟨j, hSmall, hInteger, hFloat⟩ := exists_timesHundred h
      simp only [if_true, hInteger, hFloat, fitted_ofInt hSmall, isNegative_ofInt hSmall]

theorem money_ofInt (h : (i.toInt * 100).natAbs < 2 ^ 53) (locale : String) :
    money locale (.decimal (ofInt i.toInt)) = money locale (.integer i) := by
  simp only [money, decimal_ofInt h]

/-- Number words go by the integer that a number is, and a whole number is told to be one. -/
theorem spelled_ofInt (h : i.toInt.natAbs < 2 ^ 53) :
    English.spelled (.decimal (ofInt i.toInt)) = English.spelled (.integer i) := by
  have hNegative := isNegative_ofInt h
  obtain ⟨x, hx, hInt⟩ := Binary64.exists_ofInt_eq h
  have hShortest := Magnitude.shortest_isNat hx h
  have hWords : English.decimal x.shortest = English.cardinal i.toInt.natAbs := by
    have hFits : i.toInt.natAbs < UInt64.size := by
      rw [UInt64.size]
      omega
    simp [English.decimal, hShortest.integerPart, hShortest.fractionDigits, hFits]
  rw [hInt] at hNegative ⊢
  simp only [English.spelled, hNegative, hWords]

theorem ordinal_ofInt (h : (i.toInt * 100).natAbs < 2 ^ 53) (locale : String) :
    ordinal locale (.decimal (ofInt i.toInt)) = ordinal locale (.integer i) := by
  have hInteger : (Number.decimal (ofInt i.toInt)).toInteger? = some i :=
    Number.toInteger?_decimal_iff.mpr (.inl (Binary64.value?_ofInt (by omega)))
  rw [ordinal, hInteger]
  rfl

/-- Spans of time round to whole seconds, which leaves whole numbers as they are. -/
theorem duration_ofInt (h : i.toInt.natAbs < 2 ^ 53) :
    duration (.decimal (ofInt i.toInt)) = duration (.integer i) := by
  have hSeconds : wholeSeconds? (.decimal (ofInt i.toInt)) = some i := by
    simp only [wholeSeconds?, Binary64.round?_ofInt h, Option.map_some, int64Nearest_toInt]
  rw [duration, hSeconds]
  rfl

/-- A whole number that stays below 53 bits as a percentage is written alike in every style. -/
theorem format_ofInt (h : (i.toInt * 100).natAbs < 2 ^ 53) (locale : String)
    (style : NumberStyle) :
    format (.decimal (ofInt i.toInt)) locale style = format (.integer i) locale style := by
  have hSmall : i.toInt.natAbs < 2 ^ 53 := by omega
  cases style with
  | default | integer | percent | custom => simp only [format, decimal_ofInt h]
  | currency => simp only [format, money_ofInt h]
  | spellout => simp only [format, spelled_ofInt hSmall, decimal_ofInt h]
  | ordinal => simp only [format, ordinal_ofInt h, decimal_ofInt h]
  | duration => simp only [format, duration_ofInt hSmall]

end NumberFormat

/-- A whole number has the same digits for plural rules: its shortest decimal is itself, and has no
fraction. -/
theorem Plural.Operands.ofNumber?_ofInt {i : Int64} (h : i.toInt.natAbs < 2 ^ 53) :
    ofNumber? (.decimal (ofInt i.toInt)) = ofNumber? (.integer i) := by
  obtain ⟨x, hx, hInt⟩ := Binary64.exists_ofInt_eq h
  have hShortest := Magnitude.shortest_isNat hx h
  have hKept : keepInteger i.toInt.natAbs = i.toInt.natAbs := by
    rw [keepInteger, if_pos (by omega)]
  rw [hInt]
  simp [ofNumber?, ofDecimal, hShortest.integerPart, hShortest.fractionDigits, hKept, digitsValue]

/-- An offset is taken off a whole number alike on both ways. The difference is given as an integer,
so that what follows can go on with it. -/
theorem Number.exists_minus {i : Int64} (h : i.toInt.natAbs < 2 ^ 53) (offset : UInt32) :
    ∃ j : Int64, j.toInt = i.toInt - offset.toNat ∧ (integer i).minus offset = integer j ∧
      (decimal (ofInt i.toInt)).minus offset = decimal (ofInt j.toInt) := by
  have hOffset := offset.toNat_lt
  obtain ⟨j, hInteger, hValue⟩ :=
    int64?_eq_some (by omega : (i.toInt - offset.toNat).natAbs < 2 ^ 63)
  refine ⟨j, hValue, ?_, ?_⟩
  · rw [minus, hInteger]
  · rw [minus, Binary64.minus_ofInt h, hValue]

variable {m : Type → Type}

/-- Collaborators that write numbers in the usual way, and tell the category of a number from its
digits alone. How they come to the category is left open. -/
structure Formatters.UsesDigits (formatters : Formatters m) : Prop where
  number : formatters.number = NumberFormat.format
  category : ∀ {n n' : Number}, Plural.Operands.ofNumber? n = Plural.Operands.ofNumber? n' →
    ∀ locale type, formatters.category n locale type = formatters.category n' locale type

theorem Formatters.usesDigits_standard [Monad m] :
    (standard : Formatters m).UsesDigits where
  number := rfl
  category h locale type := by simp only [standard, Plural.category, h]

/-- Rules that are kept are asked about the same digits as rules that are looked up. -/
theorem Formatters.usesDigits_cached : cached.UsesDigits where
  number := rfl
  category h locale type := by simp only [cached, Plural.RuleCache.category, h]

/-- Neither what is written nor what is chosen tells the two numbers apart. Below 46 bits every
offset and a percentage together stay exact. -/
theorem Environment.numbersAgree_ofInt {formatters : Formatters m} (hDigits : formatters.UsesDigits)
    {i : Int64} (h : i.toInt.natAbs ≤ 2 ^ 46) (bindings bindings' : Bindings) (locale : String) :
    NumbersAgree ⟨bindings, locale, formatters⟩ ⟨bindings', locale, formatters⟩
      (.decimal (ofInt i.toInt)) (.integer i) := by
  -- Every offset has 32 bits, so what is left of the number stays below 53 bits as a percentage.
  have hMinus (offset : UInt32) : ∃ j : Int64, (j.toInt * 100).natAbs < 2 ^ 53 ∧
      (Number.integer i).minus offset = .integer j ∧
      (Number.decimal (ofInt i.toInt)).minus offset = .decimal (ofInt j.toInt) := by
    obtain ⟨j, hValue, hMinus⟩ := Number.exists_minus (by omega : i.toInt.natAbs < 2 ^ 53) offset
    have hOffset := offset.toNat_lt
    exact ⟨j, by omega, hMinus⟩
  constructor
  · intro offset style
    obtain ⟨j, hSmall, hInteger, hFloat⟩ := hMinus offset
    simp only [hDigits.number, hInteger, hFloat, NumberFormat.format_ofInt hSmall]
  · intro offset type
    obtain ⟨j, hSmall, hInteger, hFloat⟩ := hMinus offset
    rw [hInteger, hFloat]
    exact hDigits.category (Plural.Operands.ofNumber?_ofInt (by omega)) locale type

/-- Messages without dates come out alike. Dates are left out, because in their place an integer and
a float may be read as different things. -/
theorem format_ofInt_of_usesDigits [Monad m] [LawfulMonad m] {message : Message}
    (h : message.hasDates = false) {options : CompileOptions m}
    (hDigits : options.formatters.UsesDigits) (bindings : Bindings) (id : String) {i : Int64}
    (hi : i.toInt.natAbs ≤ 2 ^ 46) :
    (CompiledMessage.ofMessage message options).format
        (bindings.insert id (.float (ofInt i.toInt))) =
      (CompiledMessage.ofMessage message options).format (bindings.insert id (.number i)) := by
  have hNoDates : message.hasDates = true → False := by simp [h]
  refine CompiledMessage.format_congr rfl (Environment.agrees_insert id ?_) hNoDates
  exact ⟨Binary64.text_ofInt (by omega),
    .some (Environment.numbersAgree_ofInt hDigits hi _ _ options.locale), False.elim⟩

/-- A whole number of at most 46 bits gives the same message as a floating-point number and as an
integer, in messages without dates: in every style, and after the same choices with every offset.
So it is whether plural rules are kept or looked up each time. -/
theorem format_whole_float [Monad m] [LawfulMonad m] {message : Message}
    (h : message.hasDates = false) (locale : String) (strict : Bool) (bindings : Bindings)
    (id : String) {i : Int64} (hi : i.toInt.natAbs ≤ 2 ^ 46) :
    let format {m : Type → Type} [Monad m] (formatters : Formatters m) (value : Value) :=
      (CompiledMessage.ofMessage message ⟨locale, strict, formatters⟩).format
        (bindings.insert id value)
    format (.standard : Formatters m) (.float (ofInt i.toInt)) = format .standard (.number i) ∧
      format .cached (.float (ofInt i.toInt)) = format .cached (.number i) :=
  ⟨format_ofInt_of_usesDigits h Formatters.usesDigits_standard bindings id hi,
    format_ofInt_of_usesDigits h Formatters.usesDigits_cached bindings id hi⟩

/-- The greatest number of 46 bits, less an offset, as a percentage and as seconds. -/
theorem format_whole_float_greatest :
    (CompiledMessage.ofMessage
      [.plural "n" true 4294967295 [⟨"=70368744177664", [.pound, .literal ", ",
        .typed "n" .number (some "percent"), .literal ", ",
        .typed "n" .number (some "duration")]⟩, ⟨"other", []⟩]]
      (⟨"en", true, .standard⟩ : CompileOptions Id)).format
      (Bindings.empty.insert "n" (.float (ofInt 70368744177664))) =
        .ok "70,364,449,210,369, 7,036,874,417,766,400%, 19546873382:41:04" := by
  have hNoDates : Message.hasDates [.plural "n" true 4294967295
      [⟨"=70368744177664", [.pound, .literal ", ", .typed "n" .number (some "percent"),
        .literal ", ", .typed "n" .number (some "duration")]⟩, ⟨"other", []⟩]] = false := by
    decide
  have hBits : (70368744177664 : Int64).toInt.natAbs ≤ 2 ^ 46 := by decide
  refine (format_whole_float (m := Id) hNoDates "en" true .empty "n" hBits).1.trans ?_
  change @Eq (Except FormatError String) _ _
  decide +kernel

end LocaleMessage
