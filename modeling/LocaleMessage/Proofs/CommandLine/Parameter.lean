import LocaleMessage.CommandLine.Parameter
import LocaleMessage.Proofs.Calendar.Reading
import LocaleMessage.Proofs.Number

/-! Values on the command line beside the same texts as values of their own. The command line takes
a text as it stands and knows fewer forms of dates; texts are trimmed when they are asked for a
number or a date-time. Both come to the same numbers, and to the same date-times where there is no
number. -/
namespace LocaleMessage

/-- The characters that numbers in digits are written with. White space is none of them, which is
all that they are needed for. -/
def IsNumeral (c : Char) : Prop :=
  c.isDigit = true ∨ c ∈ ['.', 'e', 'E', '+', '-']

theorem isSpace_of_isNumeral {c : Char} (h : IsNumeral c) : Text.isSpace c = false := by
  rcases h with hDigit | hMark
  · exact Text.isSpace_of_isDigit hDigit
  · have hAll : ['.', 'e', 'E', '+', '-'].all (fun d => !Text.isSpace d) = true := by decide
    simpa using List.all_eq_true.mp hAll c hMark

/-- A text is its sign and what stands behind it. A sign may be missing. -/
theorem exists_sign (text : List Char) :
    ∃ sign ∈ [[], ['-'], ['+']], text = sign ++ (takeSign text).2 := by
  cases text with
  | nil => exact ⟨[], by simp, rfl⟩
  | cons c cs =>
      by_cases hMinus : c = '-'
      · subst hMinus
        exact ⟨['-'], by simp, rfl⟩
      by_cases hPlus : c = '+'
      · subst hPlus
        exact ⟨['+'], by simp, rfl⟩
      · exact ⟨[], by simp, by rw [takeSign_cons hMinus hPlus]; rfl⟩

theorem isNumeral_of_takeSign {text : List Char} (h : ∀ c ∈ (takeSign text).2, IsNumeral c) :
    ∀ c ∈ text, IsNumeral c := by
  obtain ⟨sign, hSign, hText⟩ := exists_sign text
  have hMarks : ∀ sign ∈ [[], ['-'], ['+']], ∀ c ∈ sign, c ∈ ['.', 'e', 'E', '+', '-'] := by
    simp
  intro c hMem
  rw [hText] at hMem
  rcases List.mem_append.mp hMem with hFirst | hRest
  · exact .inr (hMarks sign hSign c hFirst)
  · exact h c hRest

theorem isNumeral_of_dropWhile {text : List Char}
    (h : ∀ c ∈ text.dropWhile Char.isDigit, IsNumeral c) : ∀ c ∈ text, IsNumeral c := by
  intro c hMem
  rw [← List.takeWhile_append_dropWhile (p := Char.isDigit) (l := text)] at hMem
  rcases List.mem_append.mp hMem with hDigit | hRest
  · exact .inl (List.mem_takeWhile_imp hDigit)
  · exact h c hRest

/-- Digits with or without a sign in front, as they have to be where an integer or an exponent is
read. -/
theorem isNumeral_of_all {text : List Char}
    (h : ¬((takeSign text).2.isEmpty || !(takeSign text).2.all Char.isDigit) = true) :
    ∀ c ∈ text, IsNumeral c := by
  apply isNumeral_of_takeSign
  intro c hMem
  simp only [Bool.or_eq_true, Bool.not_eq_true', not_or, Bool.not_eq_false] at h
  exact .inl (List.all_eq_true.mp h.2 c hMem)

theorem isNumeral_exponent {c : Char} {cs : List Char} (hMark : (c = 'e' || c = 'E') = true)
    (h : ¬((takeSign cs).2.isEmpty || !(takeSign cs).2.all Char.isDigit) = true) :
    ∀ d ∈ c :: cs, IsNumeral d := by
  intro d hMem
  rcases List.mem_cons.mp hMem with rfl | hRest
  · simp only [Bool.or_eq_true, decide_eq_true_eq] at hMark
    exact .inr (by rcases hMark with rfl | rfl <;> decide)
  · exact isNumeral_of_all h d hRest

/-- A decimal is written with these characters alone, the mark of its exponent included. -/
theorem isNumeral_of_decimal {text : List Char} {d : Decimal} (h : Decimal.ofText? text = some d) :
    ∀ c ∈ text, IsNumeral c := by
  apply isNumeral_of_dropWhile
  simp only [Decimal.ofText?] at h
  generalize text.dropWhile Char.isDigit = rest at h
  split at h
  · next fraction =>
    split_ifs at h
    have hFraction : ∀ c ∈ fraction.dropWhile Char.isDigit, IsNumeral c := by
      split at h
      · next hEnd =>
        change fraction.dropWhile Char.isDigit = [] at hEnd
        simp [hEnd]
      · next c cs hEnd =>
        change fraction.dropWhile Char.isDigit = c :: cs at hEnd
        rw [hEnd]
        split_ifs at h with hMark hDigits
        · exact isNumeral_exponent hMark hDigits
        · exact isNumeral_exponent hMark hDigits
    intro c hMem
    rcases List.mem_cons.mp hMem with rfl | hRest
    · exact .inr (by simp)
    · exact isNumeral_of_dropWhile hFraction c hRest
  · split_ifs at h
    split at h
    · next hEnd =>
      change rest = [] at hEnd
      simp [hEnd]
    · next c cs hEnd =>
      change rest = c :: cs at hEnd
      rw [hEnd]
      split_ifs at h with hMark hDigits
      · exact isNumeral_exponent hMark hDigits
      · exact isNumeral_exponent hMark hDigits

theorem isNumeral_of_integer {text : String} {i : Int64}
    (h : Number.integerOfText? text = some i) : ∀ c ∈ text.toList, IsNumeral c := by
  simp only [Number.integerOfText?] at h
  split_ifs at h with hRefused
  · exact isNumeral_of_all hRefused
  · exact isNumeral_of_all hRefused

/-- A number in digits has no white space in it. The names of values that are not finite are read as
floats, but as no numbers. -/
theorem Number.isSpace_of_ofText? {text : String} {n : Number} (h : ofText? text = some n) :
    ∀ c ∈ text.toList, Text.isSpace c = false := by
  have hNumeral : ∀ c ∈ text.toList, IsNumeral c := by
    rw [ofText?] at h
    split at h
    · next hInteger => exact isNumeral_of_integer hInteger
    · split at h
      · next f hFloat =>
        split_ifs at h with hFinite
        apply isNumeral_of_takeSign
        simp only [Binary64.ofText?, Binary64.ofTextWith?] at hFloat
        split_ifs at hFloat
        · obtain rfl := Option.some.inj hFloat
          contradiction
        · obtain rfl := Option.some.inj hFloat
          contradiction
        · obtain ⟨d, hDecimal, -⟩ := Option.map_eq_some_iff.mp hFloat
          exact isNumeral_of_decimal hDecimal
      · contradiction
  exact fun c hMem => isSpace_of_isNumeral (hNumeral c hMem)

/-- A text that is a number as it stands is the same number when it is trimmed, since there is
nothing to trim. -/
theorem Number.ofText?_trim {text : String} {n : Number} (h : ofText? text = some n) :
    ofText? (String.ofList (Text.trim text.toList)) = some n := by
  rw [Text.trim_of_forall (isSpace_of_ofText? h), String.ofList_toList, h]

theorem takeSign_digits {sign ds : List Char} (hSign : sign ∈ [[], ['-'], ['+']])
    (hNonempty : ds ≠ []) (hDigits : ∀ c ∈ ds, c.isDigit = true) (rest : List Char) :
    (takeSign (sign ++ (ds ++ rest))).2 = ds ++ rest := by
  simp only [List.mem_cons, List.not_mem_nil, or_false] at hSign
  rcases hSign with rfl | rfl | rfl
  · obtain ⟨first, others, rfl⟩ := List.exists_cons_of_ne_nil hNonempty
    have hFirst : first.isDigit = true := hDigits first (by simp)
    have hNe {c : Char} (hc : c.isDigit = false) : first ≠ c := by
      rintro rfl
      rw [hFirst] at hc
      contradiction
    rw [List.nil_append, List.cons_append, takeSign_cons (hNe (by decide)) (hNe (by decide))]
  · rfl
  · rfl

/-- Digits that go on with anything but a point or an exponent are no decimal. -/
theorem Decimal.ofText?_eq_none {text rest : List Char} {c : Char}
    (h : text.dropWhile Char.isDigit = c :: rest) (hc : c ∉ ['.', 'e', 'E']) :
    ofText? text = none := by
  simp only [List.mem_cons, List.not_mem_nil, or_false, not_or] at hc
  simp [ofText?, h, hc]

theorem toLower_of_isDigit {c : Char} (h : c.isDigit = true) : c.toLower = c := by
  obtain ⟨-, hHigh⟩ : 48 ≤ c.toNat ∧ c.toNat ≤ 57 := Char.isDigit_iff_toNat.mp h
  unfold Char.toLower
  rw [dif_neg]
  intro hUpper
  have hLow : 65 ≤ c.toNat := UInt32.le_iff_toNat_le.mp hUpper.1
  omega

/-- Text behind a sign that begins with a digit is no name of a value, so it is read as a decimal or
not at all. -/
theorem Binary64.ofText?_digits {text : String} {c : Char} {cs : List Char}
    (h : (takeSign text.toList).2 = c :: cs) (hDigit : c.isDigit = true) :
    ofText? text =
      (Decimal.ofText? (c :: cs)).map fun d =>
        ofMagnitude (takeSign text.toList).1 (Magnitude.ofDecimal? d) := by
  have hName (name : List Char) (hHead : name.head?.any Char.isDigit = false) :
      (c :: cs).map Char.toLower ≠ name := by
    rintro rfl
    rw [List.map_cons, List.head?_cons, Option.any_some, toLower_of_isDigit hDigit, hDigit] at hHead
    contradiction
  simp only [ofText?, ofTextWith?, h, hName "nan".toList (by decide),
    hName "inf".toList (by decide), hName "infinity".toList (by decide)]
  simp

/-- Digits behind a sign that go on with a hyphen, as dates do, are no number. -/
theorem Number.ofText?_hyphen {sign ds : List Char} (hSign : sign ∈ [[], ['-'], ['+']])
    (hNonempty : ds ≠ []) (hDigits : ∀ c ∈ ds, c.isDigit = true) (after : List Char) :
    ofText? (String.ofList (sign ++ (ds ++ '-' :: after))) = none := by
  have hRest := takeSign_digits hSign hNonempty hDigits ('-' :: after)
  have hHyphen : Char.isDigit '-' = false := by decide
  have hInteger : integerOfText? (String.ofList (sign ++ (ds ++ '-' :: after))) = none := by
    simp [integerOfText?, hRest, hHyphen]
  have hDrop : (ds ++ '-' :: after).dropWhile Char.isDigit = '-' :: after := by
    rw [List.dropWhile_append_of_pos hDigits, List.dropWhile_cons_of_neg (by simp [hHyphen])]
  have hDecimal : Decimal.ofText? (ds ++ '-' :: after) = none :=
    Decimal.ofText?_eq_none hDrop (by decide)
  have hFloat : Binary64.ofText? (String.ofList (sign ++ (ds ++ '-' :: after))) = none := by
    obtain ⟨first, others, rfl⟩ := List.exists_cons_of_ne_nil hNonempty
    have hFirst : (takeSign (String.ofList (sign ++ (first :: others ++ '-' :: after))).toList).2 =
        first :: (others ++ '-' :: after) := by
      rw [String.toList_ofList, hRest, List.cons_append]
    rw [List.cons_append] at hDecimal
    rw [Binary64.ofText?_digits hFirst (hDigits first (by simp)), hDecimal, Option.map_none]
  rw [ofText?, hInteger, hFloat]

open Calendar (Reader)

/-- What begins with a date is no number when it is trimmed. That it may be trimmed in front only is
what the hypothesis says. -/
theorem number?_of_date {text rest : List Char} {d : Date}
    (h : Reader.date text = some (d, rest)) (hTrim : Text.trim text = Text.trimLeft text) :
    Number.ofText? (String.ofList (Text.trim text)) = none := by
  obtain ⟨sign, ds, after, hSign, hNonempty, hDigits, hText⟩ := Reader.date_eq_some h
  rw [hTrim, hText, Number.ofText?_hyphen hSign hNonempty hDigits]

/-- Date-times without a fraction are read alike as they stand and trimmed, and trimmed they are no
numbers. -/
theorem trim_of_marked {text : List Char} {dt : DateTime}
    (h : DateTime.ofMarkedText? false text = some dt) :
    DateTime.ofText? (Text.trim text) = some dt ∧
      Number.ofText? (String.ofList (Text.trim text)) = none := by
  have hStops := Reader.stopsBehindDigit_dateTime (Reader.leavesEnd_char 'T')
  have hTrimmed := Reader.whole?_trim (Reader.skipsSpaces_dateTime _ false) hStops h
  have hRead : DateTime.ofMarkedText? true (Text.trim text) = some dt :=
    Reader.whole?_eq_some.mpr (Reader.dateTime_true (Reader.whole?_eq_some.mp hTrimmed))
  obtain ⟨d, rest, hDate, -⟩ := Reader.bind_eq_some.mp (Reader.whole?_eq_some.mp h)
  constructor
  · rw [DateTime.ofText?, hRead, Option.some_or]
  · exact number?_of_date hDate (Reader.trim_of_whole? hStops h)

/-- So are dates, which no form with a time takes. The forms are tried in an order that puts them
last. -/
theorem trim_of_date {text : List Char} {dt : DateTime}
    (h : DateTime.ofDateText? text = some dt) :
    DateTime.ofText? (Text.trim text) = some dt ∧
      Number.ofText? (String.ofList (Text.trim text)) = none := by
  obtain ⟨d, hDate, rfl⟩ := Option.map_eq_some_iff.mp h
  have hTrimmed := Reader.whole?_trim Reader.skipsSpaces_date Reader.stopsBehindDigit_date hDate
  have hNone {between : Reader Unit} (hEnd : Reader.LeavesEnd between) :
      Reader.whole? (Reader.dateTime between true) (Text.trim text) = none := by
    rw [Reader.whole?, Reader.dateTime_of_date (Reader.whole?_eq_some.mp hTrimmed) hEnd true]
  constructor
  · rw [DateTime.ofText?, DateTime.ofMarkedText?, hNone (Reader.leavesEnd_char 'T'),
      DateTime.ofSpacedText?, hNone Reader.leavesEnd_spaces, DateTime.ofDateText?, hTrimmed]
    rfl
  · exact number?_of_date (Reader.whole?_eq_some.mp hDate)
      (Reader.trim_of_whole? Reader.stopsBehindDigit_date hDate)

/-- What the command line takes for a date-time is the same one as a text, and is no number. The two
forms that it knows are told apart here. -/
theorem trim_of_parameter {text : List Char} {dt : DateTime}
    (h : (DateTime.ofMarkedText? false text).or (DateTime.ofDateText? text) = some dt) :
    DateTime.ofText? (Text.trim text) = some dt ∧
      Number.ofText? (String.ofList (Text.trim text)) = none := by
  rcases Option.or_eq_some_iff.mp h with hMarked | ⟨-, hDate⟩
  · exact trim_of_marked hMarked
  · exact trim_of_date hDate

/-- A text comes to the same number on the command line and as a value of its own, and to the same
date-time where it is no number. -/
theorem views_ofParameter (raw : String) :
    (Value.ofParameter raw).number? = (Value.string raw).number? ∧
      ((Value.string raw).number? = none →
        (Value.ofParameter raw).dateTime? = (Value.string raw).dateTime?) := by
  cases hNumber : Number.ofText? raw with
  | some n =>
      have hTrimmed : (Value.string raw).number? = some n := by
        rw [Value.number?, Number.ofText?_trim hNumber]
      constructor
      · rw [hTrimmed, Value.ofParameter, hNumber]
        cases n with
        | integer i => rfl
        | decimal f => rfl
      · rw [hTrimmed]
        intro hNone
        cases hNone
  | none =>
      rw [Value.ofParameter, hNumber]
      cases hDate : (DateTime.ofMarkedText? false raw.toList).or
          (DateTime.ofDateText? raw.toList) with
      | some dt =>
          obtain ⟨hDateTime, hNone⟩ := trim_of_parameter hDate
          simp only [Value.number?, Value.dateTime?, hNone, hDateTime, implies_true, and_self]
      | none => exact ⟨rfl, fun _ => rfl⟩

/-- A leap second behind white space, which is a date-time on the command line. -/
theorem views_ofParameter_leap :
    (Value.ofParameter " 2016-12-31T23:59:60").number? = none ∧
      (Value.string " 2016-12-31T23:59:60").dateTime? =
        some ⟨⟨2016, 12, 31, by decide⟩, ⟨23, 59, 59, 1000000000, by decide⟩⟩ ∧
      (Value.ofParameter " 2016-12-31T23:59:60").dateTime? =
        some ⟨⟨2016, 12, 31, by decide⟩, ⟨23, 59, 59, 1000000000, by decide⟩⟩ := by
  have hNone : (Value.string " 2016-12-31T23:59:60").number? = none := by decide
  have hDateTime : (Value.string " 2016-12-31T23:59:60").dateTime? =
      some ⟨⟨2016, 12, 31, by decide⟩, ⟨23, 59, 59, 1000000000, by decide⟩⟩ := by
    decide
  obtain ⟨hNumber, hSame⟩ := views_ofParameter " 2016-12-31T23:59:60"
  exact ⟨hNumber.trans hNone, hDateTime, (hSame hNone).trans hDateTime⟩

end LocaleMessage
