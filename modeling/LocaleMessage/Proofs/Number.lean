import LocaleMessage.Number

/-! Digits and the number that they stand for, integers read from their text, and numbers less an
offset. -/
namespace LocaleMessage

/-- Zero is written as well, with one digit, so a number is never written as an empty text. -/
theorem decimalDigits_ne_nil (n : Nat) : decimalDigits n ≠ [] :=
  Nat.toDigits_ne_nil

theorem isDigit_of_mem_decimalDigits {n : Nat} {c : Char} (h : c ∈ decimalDigits n) :
    c.isDigit = true :=
  Nat.isDigit_of_mem_toDigits (by decide) (by decide) h

/-- Digits read back as the number that they were written for. This holds of all numbers, not only
of those that fit in a word. -/
@[simp] theorem digitsValue_decimalDigits (n : Nat) : digitsValue (decimalDigits n) = n := by
  rw [digitsValue, ← Nat.ofDigitChars_eq_foldl]
  exact Nat.ofDigitChars_ten_toDigits

theorem Binary64.minus_zero (x : Binary64) : x.minus 0 = x := by
  cases x <;> simp [Binary64.minus, Binary64.value?]

/-- An integer of 64 bits is found again from its value, so nothing within the range is refused. -/
theorem int64?_toInt (i : Int64) : int64? i.toInt = some i := by
  have hLow := i.minValue_le_toInt
  have hHigh := i.toInt_le
  rw [int64?, if_pos ⟨hLow, hHigh⟩, Int64.ofInt_toInt]

theorem int64Nearest_toInt (i : Int64) : int64Nearest i.toInt = i := by
  have hLow : -9223372036854775808 ≤ i.toInt := i.minValue_le_toInt
  have hHigh : i.toInt ≤ 9223372036854775807 := i.toInt_le
  rw [int64Nearest, if_neg (by omega), if_neg (by omega), Int64.ofInt_toInt]

theorem takeSign_cons {c : Char} (hMinus : c ≠ '-') (hPlus : c ≠ '+') (cs : List Char) :
    takeSign (c :: cs) = (false, c :: cs) := by
  simp [takeSign, hMinus, hPlus]

theorem takeSign_decimalDigits (n : Nat) :
    takeSign (decimalDigits n) = (false, decimalDigits n) := by
  cases hDigits : decimalDigits n with
  | nil => exact absurd hDigits (decimalDigits_ne_nil n)
  | cons c cs =>
      have hMem : c ∈ decimalDigits n := by simp [hDigits]
      have hDigit := isDigit_of_mem_decimalDigits hMem
      refine takeSign_cons ?_ ?_ cs
      · rintro rfl
        contradiction
      · rintro rfl
        contradiction

/-- The least integer is included: its digits alone stand for more than the greatest one, but the
sign is read with them. -/
theorem Number.integerOfText?_intText (i : Int64) : integerOfText? (intText i.toInt) = some i := by
  have hDigits (n : Nat) : (decimalDigits n).all Char.isDigit = true :=
    List.all_eq_true.mpr fun _ hMem => isDigit_of_mem_decimalDigits hMem
  have hNonempty (n : Nat) : (decimalDigits n).isEmpty = false :=
    List.isEmpty_eq_false_iff.mpr (decimalDigits_ne_nil n)
  unfold integerOfText? intText
  rw [String.toList_ofList]
  by_cases hSign : i.toInt < 0
  · have hValue : -(i.toInt.natAbs : Int) = i.toInt := by omega
    simp only [hSign, if_true, takeSign, hNonempty, hDigits, digitsValue_decimalDigits, hValue,
      int64?_toInt, Bool.not_true, Bool.or_self, Bool.false_eq_true, if_false]
  · have hValue : (i.toInt.natAbs : Int) = i.toInt := by omega
    simp only [hSign, if_false, takeSign_decimalDigits, hNonempty, hDigits,
      digitsValue_decimalDigits, hValue, int64?_toInt, Bool.not_true, Bool.or_self,
      Bool.false_eq_true]

/-- The text of an integer reads back as that integer, the least one included. It is never read as a
float. -/
theorem Number.ofText?_intText (i : Int64) : ofText? (intText i.toInt) = some (.integer i) := by
  rw [ofText?, integerOfText?_intText]

/-- An offset of zero changes no number. A float is kept too, with its sign where it is zero and
where it is no number. -/
@[simp] theorem Number.minus_zero (n : Number) : n.minus 0 = n := by
  cases n with
  | integer i => simp [Number.minus, int64?_toInt]
  | decimal f => simp [Number.minus, Binary64.minus_zero]

end LocaleMessage
