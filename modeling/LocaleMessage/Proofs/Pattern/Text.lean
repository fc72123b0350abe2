import LocaleMessage.Proofs.Pattern.Grammar
import LocaleMessage.Pattern.Reader
import Mathlib.Data.List.Induction

/-! Reading text takes one unit after the other, and stops exactly where no unit goes on. -/
namespace LocaleMessage.Pattern

variable {scope : Scope} {input written value following rest : List Char}

@[simp] theorem isSpecial_apostrophe (scope : Scope) : scope.isSpecial '\'' = false := by
  cases scope <;> decide

theorem ne_apostrophe_of_isSpecial {c : Char} (hSpecial : scope.isSpecial c = true) : c ≠ '\'' := by
  rintro rfl
  simp at hSpecial

/-- What ends text: the end of the pattern, or a special character. An apostrophe never does. -/
def StopsText (scope : Scope) (rest : List Char) : Prop :=
  ∀ c, rest.head? = some c → scope.isSpecial c = true

/-- No unit begins with a special character; a quoted one begins with an apostrophe. -/
theorem TextUnit.isSpecial_head {c : Char} (h : TextUnit scope written value following)
    (hHead : (written ++ following).head? = some c) : scope.isSpecial c = false := by
  cases h with
  | @ordinary d _ hPlain hOrdinary =>
      have hEq : d = c := by simpa using hHead
      exact hEq ▸ hOrdinary
  | doubled | lone | quoted | unclosed =>
      have hEq : '\'' = c := by simpa using hHead
      exact hEq ▸ isSpecial_apostrophe scope

theorem TextUnit.written_ne_nil (h : TextUnit scope written value following) : written ≠ [] := by
  cases h <;> simp

theorem TextUnit.value_ne_nil (h : TextUnit scope written value following) : value ≠ [] := by
  cases h <;> simp

/-- A quoted run either has an apostrophe that closes it, or takes the whole input. The induction
goes two characters at a time over doubled apostrophes. -/
theorem exists_quotedBody (input : List Char) :
    (∃ body value following, input = body ++ '\'' :: following ∧ QuotedBody body value ∧
        following.head? ≠ some '\'') ∨ ∃ value, QuotedBody input value := by
  have hPlain (c : Char) (input : List Char) (hc : c ≠ '\'')
      (h : (∃ body value following, input = body ++ '\'' :: following ∧ QuotedBody body value ∧
        following.head? ≠ some '\'') ∨ ∃ value, QuotedBody input value) :
      (∃ body value following, c :: input = body ++ '\'' :: following ∧ QuotedBody body value ∧
        following.head? ≠ some '\'') ∨ ∃ value, QuotedBody (c :: input) value := by
    rcases h with ⟨body, value, following, rfl, hBody, hEnd⟩ | ⟨value, hBody⟩
    · exact Or.inl ⟨c :: body, c :: value, following, rfl, .plain hc hBody, hEnd⟩
    · exact Or.inr ⟨c :: value, .plain hc hBody⟩
  induction input using List.twoStepInduction with
  | nil => exact Or.inr ⟨[], .nil⟩
  | singleton c =>
      by_cases hc : c = '\''
      · exact Or.inl ⟨[], [], [], by simp [hc], .nil, by simp⟩
      · exact hPlain c [] hc (Or.inr ⟨[], .nil⟩)
  | cons_cons c d others ihOthers ih =>
      by_cases hc : c = '\''
      · by_cases hd : d = '\''
        · subst hc hd
          rcases ihOthers with ⟨body, value, following, rfl, hBody, hEnd⟩ | ⟨value, hBody⟩
          · exact Or.inl ⟨_, _, following, rfl, .doubled hBody, hEnd⟩
          · exact Or.inr ⟨_, .doubled hBody⟩
        · exact Or.inl ⟨[], [], d :: others, by simp [hc], .nil, by simpa using hd⟩
      · exact hPlain c (d :: others) hc (ih d)

/-- Wherever the next character is not special, a unit begins. For an apostrophe it depends on the
character behind it which unit it is. -/
theorem exists_textUnit {c : Char} (hOrdinary : scope.isSpecial c = false) (others : List Char) :
    ∃ written value following, c :: others = written ++ following ∧
      TextUnit scope written value following := by
  by_cases hc : c = '\''
  · subst hc
    cases others with
    | nil => exact ⟨['\''], _, [], rfl, .lone (by simp)⟩
    | cons d others =>
        by_cases hd : d = '\''
        · subst hd
          exact ⟨['\'', '\''], _, others, rfl, .doubled⟩
        · cases hSpecial : scope.isSpecial d with
          | false =>
              refine ⟨['\''], _, d :: others, rfl, .lone ?_⟩
              intro e he
              obtain rfl : d = e := by simpa using he
              exact ⟨hd, hSpecial⟩
          | true =>
              rcases exists_quotedBody others with
                ⟨body, value, following, rfl, hBody, hEnd⟩ | ⟨value, hBody⟩
              · exact ⟨_, _, following, by simp, .quoted hSpecial hBody hEnd⟩
              · exact ⟨_, _, [], by simp, .unclosed hSpecial hBody⟩
  · exact ⟨[c], [c], others, rfl, .ordinary hc hOrdinary⟩

/-- Text is maximal exactly where it stops at a special character or at the end. The grammar says it
by the lack of another unit. -/
theorem maximalText_iff :
    MaximalText scope input value rest ↔ TextRun scope input value rest ∧ StopsText scope rest := by
  refine and_congr_right fun _ => ⟨?_, ?_⟩
  · intro hMaximal c hHead
    cases rest with
    | nil => simp at hHead
    | cons d others =>
        obtain rfl : d = c := by simpa using hHead
        cases hSpecial : scope.isSpecial d with
        | true => rfl
        | false =>
            obtain ⟨written, unit, following, hSplit, hUnit⟩ := exists_textUnit hSpecial others
            exact absurd hUnit (hMaximal written unit following hSplit)
  · rintro hStops written unit following rfl hUnit
    cases hHead : (written ++ following).head? with
    | none => exact hUnit.written_ne_nil (by simp_all)
    | some c =>
        have hOrdinary := hUnit.isSpecial_head hHead
        simp [hStops c hHead] at hOrdinary

theorem readText_of_stopsText (h : StopsText scope rest) : readText scope rest = ([], rest) := by
  cases rest with
  | nil => rw [readText]
  | cons c others =>
      have hc : scope.isSpecial c = true := h c rfl
      have hPlain : c ≠ '\'' := ne_apostrophe_of_isSpecial hc
      rw [readText, if_pos hc] <;> simp_all

/-- Inside of a quoted run reading takes the run as a whole, up to the apostrophe that is not
doubled, and goes on with text behind it. -/
theorem readQuoted_closed {body : List Char} (hBody : QuotedBody body value)
    (hEnd : following.head? ≠ some '\'') :
    readQuoted scope (body ++ '\'' :: following) =
      (value ++ (readText scope following).1, (readText scope following).2) := by
  induction hBody with
  | nil =>
      rw [List.nil_append, readQuoted]
      · rfl
      · rintro others rfl
        simp at hEnd
  | plain hPlain _ ih =>
      rw [List.cons_append, readQuoted, ih, push, List.cons_append] <;> simp_all
  | doubled _ ih => rw [List.cons_append, List.cons_append, readQuoted, ih, push, List.cons_append]

theorem readQuoted_unclosed {body : List Char} (hBody : QuotedBody body value) :
    readQuoted scope body = (value, []) := by
  induction hBody with
  | nil => rw [readQuoted]
  | plain hPlain _ ih => rw [readQuoted, ih, push] <;> simp_all
  | doubled _ ih => rw [readQuoted, ih, push]

/-- Reading takes a unit as a whole and goes on behind it. What may follow the unit is part of the
unit, so nothing is asked of it here. -/
theorem readText_unit (h : TextUnit scope written value following) :
    readText scope (written ++ following) =
      (value ++ (readText scope following).1, (readText scope following).2) := by
  cases h with
  | ordinary hPlain hOrdinary =>
      rw [List.singleton_append, readText] <;> simp_all [push]
  | doubled => simp [readText, push]
  | lone hNext =>
      cases following with
      | nil => simp [readText, push]
      | cons c others =>
          obtain ⟨hPlain, hOrdinary⟩ := hNext c rfl
          rw [List.singleton_append, readText, if_neg (by simp [hOrdinary])]
          · rw [readText] <;> simp_all [push]
          · exact hPlain
  | @quoted c body value following hSpecial hBody hEnd =>
      have hPlain : c ≠ '\'' := ne_apostrophe_of_isSpecial hSpecial
      have hRun : readQuoted scope (body ++ '\'' :: following) = _ := readQuoted_closed hBody hEnd
      simp only [List.cons_append, List.append_assoc, List.nil_append]
      rw [readText, if_pos hSpecial, hRun, push]
      exact hPlain
  | @unclosed c body value hSpecial hBody =>
      have hPlain : c ≠ '\'' := ne_apostrophe_of_isSpecial hSpecial
      have hNil : readText scope [] = ([], []) := by rw [readText]
      rw [hNil, List.append_nil, readText, if_pos hSpecial, readQuoted_unclosed hBody, push,
        List.append_nil]
      exact hPlain

/-- All units up to where text stops are read, by induction on them. Where text goes on behind them,
reading would go on as well. -/
theorem readText_of_textRun (hRun : TextRun scope input value rest) (hStops : StopsText scope rest) :
    readText scope input = (value, rest) := by
  induction hRun with
  | nil => exact readText_of_stopsText hStops
  | cons first _ ih => rw [readText_unit first, ih hStops]

/-- Every input begins with a maximal text, which may be empty. The induction is on the length, as
units have different lengths. -/
theorem exists_textRun (scope : Scope) (input : List Char) :
    ∃ value rest, TextRun scope input value rest ∧ StopsText scope rest := by
  induction hLength : input.length using Nat.strongRecOn generalizing input with
  | ind length ih =>
      subst hLength
      cases input with
      | nil => exact ⟨[], [], .nil, by simp [StopsText]⟩
      | cons c others =>
          cases hSpecial : scope.isSpecial c with
          | true => exact ⟨[], c :: others, .nil, by simpa [StopsText] using hSpecial⟩
          | false =>
              obtain ⟨written, value, following, hSplit, hUnit⟩ := exists_textUnit hSpecial others
              have hShort : following.length < (c :: others).length := by
                have hPositive := List.length_pos_iff.mpr hUnit.written_ne_nil
                rw [hSplit, List.length_append]
                omega
              obtain ⟨values, rest, hRun, hStops⟩ := ih _ hShort following rfl
              exact ⟨value ++ values, rest, hSplit ▸ .cons hUnit hRun, hStops⟩

/-- Text is read as the grammar has it. So maximal text is the only one, although units could be
split off in several ways. -/
theorem readText_eq_iff :
    readText scope input = (value, rest) ↔ MaximalText scope input value rest := by
  rw [maximalText_iff]
  constructor
  · intro h
    obtain ⟨value', rest', hRun, hStops⟩ := exists_textRun scope input
    rw [readText_of_textRun hRun hStops, Prod.mk.injEq] at h
    obtain ⟨rfl, rfl⟩ := h
    exact ⟨hRun, hStops⟩
  · rintro ⟨hRun, hStops⟩
    exact readText_of_textRun hRun hStops

/-- What follows text is an end of the input, also where the text is empty. -/
theorem TextRun.suffix (h : TextRun scope input value rest) : rest <:+ input := by
  induction h with
  | nil => exact List.suffix_refl _
  | cons _ _ ih => exact ih.trans (List.suffix_append ..)

theorem TextRun.length_le (h : TextRun scope input value rest) : rest.length ≤ input.length :=
  h.suffix.length_le

/-- Text that stands for something begins with a character that is not special. This tells it from
an argument by one character. -/
theorem TextRun.head_of_ne_nil (h : TextRun scope input value rest) (hValue : value ≠ []) :
    ∃ c others, input = c :: others ∧ scope.isSpecial c = false := by
  cases h with
  | nil => exact absurd rfl hValue
  | @cons written _ following _ _ first _ =>
      obtain ⟨c, others, hSplit⟩ : ∃ c others, written ++ following = c :: others :=
        List.exists_cons_of_ne_nil (by simp [first.written_ne_nil])
      exact ⟨c, others, hSplit, first.isSpecial_head (by rw [hSplit]; rfl)⟩

/-- Text that stands for nothing is not there: every unit stands for a character at least. -/
theorem MaximalText.of_nil (h : MaximalText scope input [] rest) :
    input = rest ∧ StopsText scope rest := by
  obtain ⟨hRun, hStops⟩ := maximalText_iff.mp h
  refine ⟨?_, hStops⟩
  generalize hValue : ([] : List Char) = value at hRun
  cases hRun with
  | nil => rfl
  | cons first => exact absurd (List.append_eq_nil_iff.mp hValue.symm).1 first.value_ne_nil

end LocaleMessage.Pattern
