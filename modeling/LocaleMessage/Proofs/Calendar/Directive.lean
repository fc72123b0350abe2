import LocaleMessage.Calendar.Directive

/-! Fields of a date-time as digits: how numbers and years with padding are written, and the numbers
that fields in two digits can be. -/
namespace LocaleMessage

namespace Calendar

/-- Two digits with zeros are the padding that times are written with. Larger numbers are left out,
since their tens are written by characters that are no digits. -/
theorem paddedTwo_zero {n : Nat} (h : n < 100) : paddedTwo .zero n = paddedDigits 2 n := by
  have hAll : ∀ m < 100, paddedTwo .zero m = paddedDigits 2 m := by decide +kernel
  exact hAll n h

/-- Without padding a number in two digits is written with as many digits as it needs. Zero needs
one, as everywhere. -/
theorem paddedTwo_none {n : Nat} (h : n < 100) : paddedTwo .none n = decimalDigits n := by
  have hAll : ∀ m < 100, paddedTwo .none m = decimalDigits m := by decide +kernel
  exact hAll n h

/-- Years are padded as in the text of a date, negative years and those of five digits with their
sign included. -/
theorem paddedYear_zero (year : Int) : paddedYear .zero year = yearText year := by
  rw [paddedYear, yearText]
  split
  · next hShort =>
    have hSign : ¬year < 0 := by omega
    simp [paddedInt, padded, paddedDigits, hSign]
  · have hGap : 5 - (1 + (decimalDigits year.natAbs).length) =
        4 - (decimalDigits year.natAbs).length := by omega
    simp [padded, paddedDigits, hGap]

/-- No month is longer than 31 days, whatever the year. A number that is no month has length zero,
so that no day is in it. -/
theorem monthLength_le (year : Int) (month : Nat) : monthLength year month ≤ 31 := by
  rw [monthLength, List.getD_eq_getElem?_getD]
  cases hLength : (monthLengths year)[month - 1]? with
  | none => exact Nat.zero_le 31
  | some length =>
      have hMem := List.mem_of_getElem? hLength
      simp only [monthLengths, List.mem_cons, List.not_mem_nil, or_false] at hMem
      rw [Option.getD_some]
      split at hMem
      · omega
      · omega

/-- On a clock of twelve hours, too, an hour fits in two digits. Nothing is asked of the number that
it is made from, so hours of no day are included. -/
theorem hourOfHalfDay_lt (hour : Nat) : hourOfHalfDay hour < 100 := by
  rw [hourOfHalfDay]
  split
  · decide
  · omega

end Calendar

namespace Date

theorem month_lt (d : Date) : d.month < 100 := by
  obtain ⟨-, -, -, hMonth, -⟩ := d.valid
  omega

theorem day_lt (d : Date) : d.day < 100 := by
  obtain ⟨-, -, -, -, -, hDay⟩ := d.valid
  have hLength := Calendar.monthLength_le d.year d.month
  omega

theorem yearOfCentury_lt (d : Date) : (d.year % 100).toNat < 100 := by
  omega

end Date

namespace TimeOfDay

theorem hour_lt (t : TimeOfDay) : t.hour < 100 := by
  obtain ⟨hHour, -⟩ := t.valid
  omega

theorem minute_lt (t : TimeOfDay) : t.minute < 100 := by
  obtain ⟨-, hMinute, -⟩ := t.valid
  omega

/-- A leap second is shown as the second 60, so that it still fits in two digits. -/
theorem shownSecond_lt (t : TimeOfDay) : t.shownSecond < 100 := by
  obtain ⟨-, -, hSecond, hNanosecond⟩ := t.valid
  rw [shownSecond]
  omega

end TimeOfDay

end LocaleMessage
