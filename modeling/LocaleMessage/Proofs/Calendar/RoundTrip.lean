import LocaleMessage.Proofs.Calendar.Directive
import LocaleMessage.Proofs.Calendar.Reading
import LocaleMessage.Proofs.Decimal

/-! Date-times that are read back from their text. The digits of every field end where the text of
the field ends, so that each reader leaves what stands behind its field. What comes back is what a
clock shows, and that is the date-time itself unless it is a leap second in the middle of a minute,
which the clock shows as the second after it. -/
namespace LocaleMessage

namespace Calendar.Reader

/-- Digits are read up to their end, where either no more are taken or no digit follows. -/
theorem digits_append {most : Nat} {ds rest : List Char} (hNonempty : ds ≠ [])
    (hDigits : ∀ c ∈ ds, c.isDigit = true)
    (hEnd : (ds ++ rest.takeWhile Char.isDigit).take most = ds) :
    digits most (ds ++ rest) = some (ds, rest) := by
  have hRun : (ds ++ rest).takeWhile Char.isDigit = ds ++ rest.takeWhile Char.isDigit :=
    List.takeWhile_append_of_pos hDigits
  simp only [digits, hRun, hEnd, List.isEmpty_eq_false_iff.mpr hNonempty, List.drop_left]
  rfl

/-- Digits that may not be more are read whatever follows, another digit included. -/
theorem digits_length {ds : List Char} (hNonempty : ds ≠ []) (hDigits : ∀ c ∈ ds, c.isDigit = true)
    (rest : List Char) : digits ds.length (ds ++ rest) = some (ds, rest) :=
  digits_append hNonempty hDigits (List.take_left ..)

theorem allDigits_append {ds rest : List Char} (hNonempty : ds ≠ [])
    (hDigits : ∀ c ∈ ds, c.isDigit = true) (hStop : rest.takeWhile Char.isDigit = []) :
    allDigits (ds ++ rest) = some (ds, rest) := by
  apply digits_append hNonempty hDigits
  rw [hStop, List.append_nil]
  apply List.take_of_length_le
  rw [List.length_append]
  exact Nat.le_add_right _ _

/-- Digits have no white space in front, so trimming in front of a field changes nothing, whatever
follows them. -/
theorem trimLeft_digits {ds : List Char} (hNonempty : ds ≠ [])
    (hDigits : ∀ c ∈ ds, c.isDigit = true) (rest : List Char) :
    Text.trimLeft (ds ++ rest) = ds ++ rest := by
  obtain ⟨c, cs, rfl⟩ := List.exists_cons_of_ne_nil hNonempty
  exact Text.trimLeft_cons (Text.isSpace_of_isDigit (hDigits c (List.mem_cons_self ..))) _

/-- Text that has digits at its end ends in a digit. -/
theorem exists_digit_suffix {ds text : List Char} (hNonempty : ds ≠ [])
    (hDigits : ∀ c ∈ ds, c.isDigit = true) (hSuffix : ds <:+ text) :
    ∃ c, c.isDigit = true ∧ [c] <:+ text := by
  have hLast : [ds.getLast hNonempty] <:+ ds :=
    ⟨ds.dropLast, List.dropLast_concat_getLast hNonempty⟩
  exact ⟨_, hDigits _ (List.getLast_mem hNonempty), hLast.trans hSuffix⟩

theorem twoDigits_paddedDigits {n : Nat} (h : n < 100) (rest : List Char) :
    twoDigits (paddedDigits 2 n ++ rest) = some (n, rest) := by
  have hDigits : ∀ c ∈ paddedDigits 2 n, c.isDigit = true := fun _ => isDigit_of_mem_paddedDigits
  have hRead := digits_length (paddedDigits_ne_nil 2 n) hDigits rest
  rw [length_paddedDigits two_ne_zero h] at hRead
  rw [twoDigits, spaces_bind, trimLeft_digits (paddedDigits_ne_nil 2 n) hDigits]
  exact bind_eq_some.mpr ⟨_, _, hRead, by rw [digitsValue_paddedDigits]; rfl⟩

theorem trimLeft_yearText (y : Int) (rest : List Char) :
    Text.trimLeft (yearText y ++ rest) = yearText y ++ rest := by
  rw [yearText]
  split_ifs
  · exact trimLeft_digits (paddedDigits_ne_nil 4 _) (fun _ => isDigit_of_mem_paddedDigits) rest
  · exact Text.trimLeft_cons (by decide) _
  · exact Text.trimLeft_cons (by decide) _

/-- A year has four digits or a sign, and behind a sign the digits end at what is no digit. Years
before the year zero are read back as well. -/
theorem year_yearText (y : Int) {rest : List Char} (hStop : rest.takeWhile Char.isDigit = []) :
    year (yearText y ++ rest) = some (y, rest) := by
  have hDigits : ∀ c ∈ paddedDigits 4 y.natAbs, c.isDigit = true :=
    fun _ => isDigit_of_mem_paddedDigits
  have hNonempty := paddedDigits_ne_nil 4 y.natAbs
  have hAll := allDigits_append hNonempty hDigits hStop
  rw [year, spaces_bind, get_bind, trimLeft_yearText, yearText]
  split_ifs with hShort hNegative
  · have hRead := digits_length hNonempty hDigits rest
    rw [length_paddedDigits (by decide) (by omega)] at hRead
    obtain ⟨c, cs, hCons⟩ := List.exists_cons_of_ne_nil hNonempty
    have hFirst : c.isDigit = true := hDigits c (by simp [hCons])
    have hMinus : c ≠ '-' := by
      rintro rfl
      contradiction
    have hPlus : c ≠ '+' := by
      rintro rfl
      contradiction
    rw [hCons, List.cons_append] at hRead ⊢
    simp only [List.cons.injEq, hMinus, hPlus, false_and, imp_false, not_false_eq_true,
      implies_true]
    apply bind_eq_some.mpr ⟨_, _, hRead, _⟩
    rw [← hCons, digitsValue_paddedDigits]
    exact pure_eq_some.mpr ⟨by omega, rfl⟩
  · apply bind_eq_some.mpr ⟨(), _, char_eq_some.mpr rfl, _⟩
    apply bind_eq_some.mpr ⟨_, _, hAll, _⟩
    rw [digitsValue_paddedDigits]
    exact pure_eq_some.mpr ⟨by omega, rfl⟩
  · apply bind_eq_some.mpr ⟨(), _, char_eq_some.mpr rfl, _⟩
    apply bind_eq_some.mpr ⟨_, _, hAll, _⟩
    rw [digitsValue_paddedDigits]
    exact pure_eq_some.mpr ⟨by omega, rfl⟩

/-- A date is read back in front of anything, since its last field has two digits. -/
theorem date_text (d : Date) (rest : List Char) : date (d.text ++ rest) = some (d, rest) := by
  have hText : d.text ++ rest = yearText d.year ++ '-' :: (paddedDigits 2 d.month ++
      '-' :: (paddedDigits 2 d.day ++ rest)) := by
    simp [Date.text]
  rw [hText]
  apply bind_eq_some.mpr ⟨d.year, _, year_yearText d.year rfl, _⟩
  apply bind_eq_some.mpr ⟨(), _, char_eq_some.mpr rfl, _⟩
  apply bind_eq_some.mpr ⟨d.month, _, twoDigits_paddedDigits d.month_lt _, _⟩
  apply bind_eq_some.mpr ⟨(), _, char_eq_some.mpr rfl, _⟩
  apply bind_eq_some.mpr ⟨d.day, _, twoDigits_paddedDigits d.day_lt _, _⟩
  rw [Date.of?, dif_pos d.valid]
  rfl

/-- The digits of a fraction count by their places behind the point. More than nine would
not count. -/
theorem nanoseconds_paddedDigits {width n : Nat} (hWidth : width ≠ 0) (hMost : width ≤ 9)
    (h : n < 10 ^ width) : nanoseconds (paddedDigits width n) = n * 10 ^ (9 - width) := by
  have hLength := length_paddedDigits hWidth h
  have hKept : (paddedDigits width n).take 9 = paddedDigits width n :=
    List.take_of_length_le (hLength.le.trans hMost)
  rw [nanoseconds]
  simp only [hKept, hLength, digitsValue_paddedDigits, Nat.pow_eq]

end Calendar.Reader

open Calendar (Reader)
open Calendar.Reader

namespace TimeOfDay

variable (t : TimeOfDay)

theorem shownNanosecond_lt : t.shownNanosecond < 1000000000 :=
  Nat.mod_lt _ (by decide)

/-- A fraction has as many digits as it needs to be exact: none, three, six or nine. -/
theorem nanoseconds_fractionDigits : nanoseconds t.fractionDigits = t.shownNanosecond := by
  have hLess := t.shownNanosecond_lt
  rw [fractionDigits]
  split_ifs with hNone hThree hSix
  · exact hNone.symm
  · rw [nanoseconds_paddedDigits (by decide) (by decide) (by omega)]
    omega
  · rw [nanoseconds_paddedDigits (by decide) (by decide) (by omega)]
    omega
  · rw [nanoseconds_paddedDigits (by decide) (by decide) (by omega)]
    omega

theorem isDigit_of_mem_fractionDigits {c : Char} (h : c ∈ t.fractionDigits) :
    c.isDigit = true := by
  rw [fractionDigits] at h
  split_ifs at h
  · contradiction
  all_goals exact isDigit_of_mem_paddedDigits h

/-- A fraction is read back with its point, and its absence as no nanoseconds. Nothing stands behind
it that could be taken for more of its digits. -/
theorem fraction_fractionText : fraction t.fractionText = some (t.shownNanosecond, []) := by
  have hValue := t.nanoseconds_fractionDigits
  rw [fractionText]
  split_ifs with hEmpty
  · rw [List.isEmpty_iff.mp hEmpty] at hValue
    rw [← hValue]
    rfl
  · have hNonempty : t.fractionDigits ≠ [] := by simpa using hEmpty
    have hRead : allDigits (t.fractionDigits ++ []) = some (t.fractionDigits, []) :=
      allDigits_append hNonempty (fun _ => t.isDigit_of_mem_fractionDigits) rfl
    rw [List.append_nil] at hRead
    rw [fraction, get_bind]
    apply bind_eq_some.mpr ⟨(), _, char_eq_some.mpr rfl, _⟩
    apply bind_eq_some.mpr ⟨_, _, hRead, _⟩
    rw [hValue]
    rfl

/-- The time is in no leap second but one at the end of a minute, where a clock shows it as the
sixtieth. -/
def OnClock : Prop :=
  t.nanosecond < 1000000000 ∨ t.second = 59

instance : Decidable t.OnClock :=
  inferInstanceAs (Decidable (_ ∨ _))

/-- The time that a clock seems to show. A leap second in the middle of a minute looks like the
second after it. -/
def shown : TimeOfDay :=
  if h : t.OnClock then t
  else ⟨t.hour, t.minute, t.shownSecond, t.shownNanosecond, by
    obtain ⟨hHour, hMinute, hSecond, hNanosecond⟩ := t.valid
    have hLess := t.shownNanosecond_lt
    rw [OnClock] at h
    rw [shownSecond]
    omega⟩

variable {t}

theorem shown_of_onClock (h : t.OnClock) : t.shown = t :=
  dif_pos h

theorem shown_eq_self_iff : t.shown = t ↔ t.OnClock := by
  constructor
  · intro hSame
    by_contra hOff
    have hNanosecond : t.shownNanosecond = t.nanosecond := by
      conv_rhs => rw [← hSame, shown, dif_neg hOff]
    have hLess := t.shownNanosecond_lt
    rw [OnClock] at hOff
    omega
  · exact shown_of_onClock

variable (t)

/-- The sixtieth second is the one before with so many nanoseconds more. Any other second is taken
as it stands. -/
theorem ofClock?_eq {second nanosecond : Nat}
    (h : (if second = 60 then (59, nanosecond + 1000000000) else (second, nanosecond)) =
      (t.second, t.nanosecond)) : ofClock? t.hour t.minute second nanosecond = some t := by
  simp only [ofClock?, h]
  exact dif_pos t.valid

/-- What a clock shows is a time again, with the second 60 for a leap second at the end of
a minute. -/
theorem ofClock?_shown :
    ofClock? t.hour t.minute t.shownSecond t.shownNanosecond = some t.shown := by
  obtain ⟨-, -, hSecond, hNanosecond⟩ := t.valid
  by_cases hOn : t.OnClock
  · rw [shown_of_onClock hOn]
    apply ofClock?_eq
    rw [shownSecond, shownNanosecond]
    rw [OnClock] at hOn
    split_ifs
    · rw [Prod.mk.injEq]
      omega
    · rw [Prod.mk.injEq]
      omega
  · have hEarly : t.shownSecond ≠ 60 := by
      rw [OnClock] at hOn
      rw [shownSecond]
      omega
    rw [shown, dif_neg hOn]
    exact ofClock?_eq ⟨_, _, _, _, _⟩ (if_neg hEarly)

/-- A time is read back as the clock shows it. Nothing may stand behind it. -/
theorem time_text : time true t.text = some (t.shown, []) := by
  apply bind_eq_some.mpr ⟨t.hour, _, twoDigits_paddedDigits t.hour_lt _, _⟩
  apply bind_eq_some.mpr ⟨(), _, char_eq_some.mpr rfl, _⟩
  apply bind_eq_some.mpr ⟨t.minute, _, twoDigits_paddedDigits t.minute_lt _, _⟩
  apply bind_eq_some.mpr ⟨(), _, char_eq_some.mpr rfl, _⟩
  apply bind_eq_some.mpr ⟨t.shownSecond, _, twoDigits_paddedDigits t.shownSecond_lt _, _⟩
  apply bind_eq_some.mpr ⟨t.shownNanosecond, _, t.fraction_fractionText, _⟩
  exact Option.map_eq_some_iff.mpr ⟨t.shown, t.ofClock?_shown, rfl⟩

theorem trimLeft_text : Text.trimLeft t.text = t.text :=
  trimLeft_digits (paddedDigits_ne_nil 2 _) (fun _ => isDigit_of_mem_paddedDigits) _

/-- The text of a time ends in a digit, with a fraction and without one. -/
theorem exists_digit_suffix_text : ∃ c, c.isDigit = true ∧ [c] <:+ t.text := by
  have hBehind : paddedDigits 2 t.shownSecond ++ t.fractionText <:+ t.text :=
    ⟨paddedDigits 2 t.hour ++ ':' :: (paddedDigits 2 t.minute ++ [':']), by simp [text]⟩
  by_cases hEmpty : t.fractionDigits = []
  · rw [fractionText, hEmpty, List.isEmpty_nil, if_pos rfl, List.append_nil] at hBehind
    exact exists_digit_suffix (paddedDigits_ne_nil 2 _) (fun _ => isDigit_of_mem_paddedDigits) hBehind
  · have hFraction : t.fractionDigits <:+ t.fractionText := by
      rw [fractionText, if_neg (by simpa using hEmpty)]
      exact List.suffix_cons ..
    apply exists_digit_suffix hEmpty fun _ => t.isDigit_of_mem_fractionDigits
    exact hFraction.trans ((List.suffix_append ..).trans hBehind)

end TimeOfDay

namespace DateTime

variable (dt : DateTime)

/-- The date-time that a clock seems to show. -/
def shown : DateTime :=
  ⟨dt.date, dt.time.shown⟩

theorem shown_eq_self_iff : dt.shown = dt ↔ dt.time.OnClock := by
  obtain ⟨date, time⟩ := dt
  rw [shown, mk.injEq, TimeOfDay.shown_eq_self_iff]
  exact and_iff_right rfl

/-- The space between date and time is no mark of a time, so the form with a mark is refused. -/
theorem ofMarkedText?_text : ofMarkedText? true dt.text = none := by
  have hNone : dateTime (char 'T') true dt.text = none :=
    (bind_of_eq_some (date_text dt.date _)).trans rfl
  rw [ofMarkedText?, whole?, hNone]

theorem ofSpacedText?_text : ofSpacedText? dt.text = some dt.shown := by
  have hSpaces : spaces (' ' :: dt.time.text) = some ((), dt.time.text) := by
    have hTrim : Text.trimLeft (' ' :: dt.time.text) = Text.trimLeft dt.time.text := rfl
    rw [spaces, hTrim, dt.time.trimLeft_text]
  apply whole?_eq_some.mpr
  apply bind_eq_some.mpr ⟨dt.date, _, date_text dt.date _, _⟩
  apply bind_eq_some.mpr ⟨(), dt.time.text, hSpaces, _⟩
  exact bind_eq_some.mpr ⟨dt.time.shown, [], dt.time.time_text, rfl⟩

/-- The text of a date-time is read as what a clock shows. The three forms are tried in turn, and
the first one does not fit. -/
theorem ofText?_text : ofText? dt.text = some dt.shown := by
  rw [ofText?, ofMarkedText?_text, ofSpacedText?_text]
  rfl

theorem trimLeft_text : Text.trimLeft dt.text = dt.text := by
  rw [text, Date.text, List.append_assoc, trimLeft_yearText]

/-- There is nothing to trim. A date-time so reads the same as a value of its own and as a text. -/
theorem trim_text : Text.trim dt.text = dt.text := by
  obtain ⟨c, hDigit, hSuffix⟩ := dt.time.exists_digit_suffix_text
  have hEnd : [c] <:+ dt.text :=
    hSuffix.trans ((List.suffix_cons ..).trans (List.suffix_append ..))
  obtain ⟨front, hText⟩ := hEnd
  rw [← hText, Text.trim_concat (Text.isSpace_of_isDigit hDigit), hText, trimLeft_text]

end DateTime

end LocaleMessage
