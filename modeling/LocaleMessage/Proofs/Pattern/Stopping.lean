import LocaleMessage.Proofs.Pattern.Reading

/-! Where the readers of names, keywords, styles, offsets and selectors fail, each said by one
equivalence. -/
namespace LocaleMessage.Pattern

open Reader

variable {input rest : List Char} {failure : Failure}

theorem ends_of_head? {p : Char → Bool} {c : Char} (hHead : rest.head? = some c)
    (hc : p c = false) : Ends p rest := by
  intro d hd
  obtain rfl : c = d := Option.some.inj (hHead.symm.trans hd)
  exact hc

namespace Reader

section
variable {α β : Type}

/-- Reading one thing behind another fails where the first one fails, or where the second one fails
behind it. No failure is replaced by another one. -/
theorem bind_eq_error {x : Reader α} {f : α → Reader β} :
    (x >>= f) input = .error failure ↔
      x input = .error failure ∨
        ∃ a next, x input = .ok (a, next) ∧ f a next = .error failure := by
  change (x input >>= fun p => f p.1 p.2) = _ ↔ _
  cases x input with
  | error e => simp [bind, Except.bind]
  | ok p =>
      obtain ⟨a, next⟩ := p
      simp [bind, Except.bind]

theorem pure_eq_error {a : α} : (pure a : Reader α) input = .error failure ↔ False := by
  change Except.ok (a, input) = _ ↔ _
  simp

theorem fail_eq_error {problem : Problem} :
    (fail problem : Reader α) input = .error failure ↔ failure = ⟨problem, input⟩ := by
  simp [fail, eq_comm]

end

theorem peek_eq_error : peek input = .error failure ↔ False := by
  simp [peek]

theorem skipBlanks_eq_error : skipBlanks input = .error failure ↔ False := by
  simp [skipBlanks]

theorem charsWhile_eq_error {p : Char → Bool} : charsWhile p input = .error failure ↔ False := by
  simp [charsWhile]

theorem text_eq_error {scope : Scope} : text scope input = .error failure ↔ False := by
  simp [text]

/-- Trying a character never fails; it tells that the character was not there. -/
theorem accept_eq_error {c : Char} : accept c input = .error failure ↔ False := by
  cases input with
  | nil => simp [accept]
  | cons d others => by_cases hd : d = c <;> simp [accept, hd]

/-- A character is missed wherever another one stands, and at the end of the pattern. -/
theorem expect_eq_error {c : Char} :
    expect c input = .error failure ↔
      input.head? ≠ some c ∧ failure = ⟨.expected (.token c), input⟩ := by
  cases input with
  | nil => simp [expect, eq_comm]
  | cons d others =>
      by_cases hd : d = c
      · simp [expect, hd]
      · simp [expect, hd, eq_comm (a := failure)]

/-- A name is refused where none begins, and at a brace or a number sign behind its beginning. In
the second case the failure stands behind the characters of the name. -/
theorem argumentId_eq_error :
    argumentId input = .error failure ↔
      ∃ before name rest, Blanks before ∧ (∀ c ∈ name, isIdChar c = true) ∧
        input = before ++ (name ++ rest) ∧ failure = ⟨.expected .argumentId, rest⟩ ∧
        (name = [] ∧ Ends isBlank rest ∧ Ends isIdChar rest ∨
          rest.head? = some '\x7b' ∨ rest.head? = some '#') := by
  simp only [argumentId, bind_eq_error, skipBlanks_eq_error, charsWhile_eq_error, peek_eq_error,
    false_or, skipBlanks_eq_ok, charsWhile_eq_ok, peek_eq_ok]
  constructor
  · rintro ⟨_, _, ⟨before, hBefore, rfl, hStart⟩, name, rest, ⟨hName, rfl, hEnds⟩, _, _,
      ⟨rfl, rfl⟩, h⟩
    split at h
    · rename_i hGuard
      simp only [Bool.or_eq_true, List.isEmpty_iff, decide_eq_true_eq, or_assoc] at hGuard
      refine ⟨before, name, _, hBefore, hName, rfl, fail_eq_error.mp h, hGuard.imp_left ?_⟩
      rintro rfl
      exact ⟨rfl, hStart, hEnds⟩
    · simp only [bind_eq_error, skipBlanks_eq_error, pure_eq_error, and_false, exists_false,
        or_false] at h
  · rintro ⟨before, name, rest, hBefore, hName, rfl, rfl, hStop⟩
    have hRest : Ends isBlank rest ∧ Ends isIdChar rest := by
      rcases hStop with ⟨rfl, hEnds⟩ | hHead | hHead
      · exact hEnds
      · exact ⟨ends_of_head? hHead (by decide), ends_of_head? hHead (by decide)⟩
      · exact ⟨ends_of_head? hHead (by decide), ends_of_head? hHead (by decide)⟩
    have hStart : Ends isBlank (name ++ rest) := by
      cases name with
      | nil => exact hRest.1
      | cons c others => exact ends_cons.mpr (isBlank_of_isIdChar c (hName c (by simp)))
    refine ⟨(), _, ⟨before, hBefore, rfl, hStart⟩, name, rest, ⟨hName, rfl, hRest.2⟩, _, _,
      ⟨rfl, rfl⟩, ?_⟩
    rw [if_pos ?_]
    · exact fail_eq_error.mpr rfl
    · simp only [Bool.or_eq_true, List.isEmpty_iff, decide_eq_true_eq, or_assoc]
      exact hStop.imp_left And.left

/-- A keyword is refused behind the blanks in front of it, where no known one begins. What would
make the word longer is not looked at. -/
theorem keyword_eq_error :
    keyword input = .error failure ↔
      ∃ before rest, Blanks before ∧ input = before ++ rest ∧ Ends isBlank rest ∧
        Keyword.leading? rest = none ∧ failure = ⟨.expected .keyword, rest⟩ := by
  simp only [keyword, bind_eq_error, skipBlanks_eq_error, pure_eq_error, false_or, and_false,
    exists_false, or_false, skipBlanks_eq_ok]
  constructor
  · rintro ⟨_, start, ⟨before, hBefore, rfl, hStart⟩, h⟩
    cases hLeading : Keyword.leading? start with
    | none =>
        simp only [hLeading, Except.error.injEq] at h
        exact ⟨before, start, hBefore, rfl, hStart, hLeading, h.symm⟩
    | some k => simp [hLeading] at h
  · rintro ⟨before, rest, hBefore, rfl, hRest, hLeading, rfl⟩
    exact ⟨(), rest, ⟨before, hBefore, rfl, hRest⟩, by rw [hLeading]⟩

/-- A style is refused only where none begins. Once it has begun, whatever ends it is left to the
reader of the argument. -/
theorem styleName_eq_error :
    styleName input = .error failure ↔
      ∃ before rest, Blanks before ∧ input = before ++ rest ∧ Ends isBlank rest ∧
        StopsText .style rest ∧ failure = ⟨.expected .styleName, rest⟩ := by
  simp only [styleName, bind_eq_error, skipBlanks_eq_error, text_eq_error, false_or,
    skipBlanks_eq_ok, text_eq_ok]
  constructor
  · rintro ⟨_, start, ⟨before, hBefore, rfl, hStart⟩, value, next, hText, h⟩
    split at h
    · rename_i hEmpty
      obtain rfl : value = [] := by simpa using hEmpty
      obtain ⟨rfl, hStops⟩ := hText.of_nil
      exact ⟨before, start, hBefore, rfl, hStart, hStops, fail_eq_error.mp h⟩
    · simp only [bind_eq_error, skipBlanks_eq_error, pure_eq_error, and_false, exists_false,
        or_false] at h
  · rintro ⟨before, rest, hBefore, rfl, hRest, hStops, rfl⟩
    refine ⟨(), rest, ⟨before, hBefore, rfl, hRest⟩, [], rest,
      maximalText_iff.mpr ⟨.nil, hStops⟩, ?_⟩
    rw [if_pos List.isEmpty_nil]
    exact fail_eq_error.mpr rfl

/-- Behind the keyword of a formatted argument a comma is missed where there is neither it nor the
brace; behind a style only the brace is waited for. -/
theorem formatted_eq_error {id : String} {f : Format} :
    formatted id f input = .error failure ↔
      input.head? ≠ some '\x7d' ∧
        (input.head? ≠ some ',' ∧ failure = ⟨.expected (.token ','), input⟩ ∨
          ∃ start, input = ',' :: start ∧ (styleName start = .error failure ∨
            ∃ style next, styleName start = .ok (style, next) ∧ next.head? ≠ some '\x7d' ∧
              failure = ⟨.expected (.token '\x7d'), next⟩)) := by
  simp only [formatted, bind_eq_error, accept_eq_error, false_or, accept_eq_ok]
  constructor
  · rintro ⟨_, _, ⟨rfl, rfl⟩ | ⟨rfl, hHead, rfl⟩, h⟩
    · simp [pure_eq_error] at h
    · simp only [Bool.false_eq_true, if_false, bind_eq_error, expect_eq_error, expect_eq_ok,
        pure_eq_error, and_false, exists_false, or_false] at h
      refine ⟨hHead, h.imp_right ?_⟩
      rintro ⟨_, start, rfl, hStyle | ⟨style, next, hStyle, hClose⟩⟩
      · exact ⟨start, rfl, Or.inl hStyle⟩
      · exact ⟨start, rfl, Or.inr ⟨style, next, hStyle, hClose⟩⟩
  · rintro ⟨hHead, h⟩
    refine ⟨false, input, Or.inr ⟨rfl, hHead, rfl⟩, ?_⟩
    simp only [Bool.false_eq_true, if_false, bind_eq_error, expect_eq_error, expect_eq_ok,
      pure_eq_error, and_false, exists_false, or_false]
    refine h.imp_right ?_
    rintro ⟨start, rfl, hStyle⟩
    exact ⟨(), start, rfl, hStyle⟩

/-- Whether the digits that stand here are no offset. There may be none, or they may stand for more
than a word holds. -/
def NoOffset (rest : List Char) : Prop :=
  rest.takeWhile Char.isDigit = [] ∨ UInt32.size ≤ digitsValue (rest.takeWhile Char.isDigit)

/-- An offset that is too large is refused at its first digit, as if it were not there. -/
theorem offsetNumber_eq_error :
    offsetNumber input = .error failure ↔
      NoOffset input ∧ failure = ⟨.expected .offsetNumber, input⟩ := by
  simp only [offsetNumber, NoOffset]
  split
  · rename_i hRefused
    simp only [Bool.or_eq_true, List.isEmpty_iff, decide_eq_true_eq] at hRefused
    rw [and_iff_right hRefused, Except.error.injEq, eq_comm]
  · rename_i hTaken
    simp only [Bool.or_eq_true, List.isEmpty_iff, decide_eq_true_eq] at hTaken
    simp only [reduceCtorEq, hTaken, false_and]

theorem lookFor_eq_error {word : String} :
    (if word.toList.isPrefixOf input then
        (.ok (true, input.drop word.length) : Except Failure (Bool × List Char))
      else .ok (false, input)) = .error failure ↔ False := by
  split <;> simp

/-- An offset is refused where it has been announced and none stands. Without the announcement the
offset is zero and nothing is refused. -/
theorem pluralOffset_eq_error :
    pluralOffset input = .error failure ↔
      ∃ before inner rest, Blanks before ∧ Blanks inner ∧
        input = before ++ ("offset:".toList ++ (inner ++ rest)) ∧ Ends isBlank rest ∧
        NoOffset rest ∧ failure = ⟨.expected .offsetNumber, rest⟩ := by
  simp only [pluralOffset, bind_eq_error, skipBlanks_eq_error, lookFor_eq_error, false_or,
    skipBlanks_eq_ok, lookFor_eq_ok]
  constructor
  · rintro ⟨_, start, ⟨before, hBefore, rfl, _⟩, _, next, ⟨rfl, rfl⟩ | ⟨rfl, _⟩, h⟩
    · simp only [if_true, bind_eq_error, skipBlanks_eq_error, offsetNumber_eq_error, pure_eq_error,
        false_or, and_false, exists_false, or_false, skipBlanks_eq_ok] at h
      obtain ⟨_, rest, ⟨inner, hInner, rfl, hRest⟩, hNumber, rfl⟩ := h
      exact ⟨before, inner, rest, hBefore, hInner, rfl, hRest, hNumber, rfl⟩
    · simp [pure_eq_error] at h
  · rintro ⟨before, inner, rest, hBefore, hInner, rfl, hRest, hNumber, rfl⟩
    refine ⟨(), _, ⟨before, hBefore, rfl, ends_cons.mpr (by decide)⟩, true, _,
      Or.inl ⟨rfl, rfl⟩, ?_⟩
    simp only [if_true, bind_eq_error, skipBlanks_eq_error, offsetNumber_eq_error, pure_eq_error,
      false_or, and_false, exists_false, or_false, skipBlanks_eq_ok]
    exact ⟨(), rest, ⟨inner, hInner, rfl, hRest⟩, hNumber, rfl⟩

/-- At a closing brace or a comma the brace of the message is missed, also where no selector has
been read. -/
theorem selector_eq_error :
    selector input = .error failure ↔
      ∃ name rest, (∀ c ∈ name, isSelectorChar c = true) ∧ input = name ++ rest ∧
        ((rest.head? = some '\x7d' ∨ rest.head? = some ',') ∧
            failure = ⟨.expected (.token '\x7b'), rest⟩ ∨
          (rest.head? ≠ some '\x7d' ∧ rest.head? ≠ some ',') ∧ name = [] ∧
            Ends isSelectorChar rest ∧ failure = ⟨.expected .selector, rest⟩) := by
  simp only [selector, bind_eq_error, charsWhile_eq_error, peek_eq_error, false_or,
    charsWhile_eq_ok, peek_eq_ok, Bool.or_eq_true, decide_eq_true_eq]
  constructor
  · rintro ⟨name, rest, ⟨hName, rfl, hEnds⟩, _, _, ⟨rfl, rfl⟩, h⟩
    refine ⟨name, _, hName, rfl, ?_⟩
    split at h
    · rename_i hClose
      exact Or.inl ⟨hClose, fail_eq_error.mp h⟩
    · rename_i hClose
      split at h
      · rename_i hEmpty
        exact Or.inr ⟨not_or.mp hClose, by simpa using hEmpty, hEnds, fail_eq_error.mp h⟩
      · simp only [bind_eq_error, skipBlanks_eq_error, pure_eq_error, and_false, exists_false,
          or_false] at h
  · rintro ⟨name, rest, hName, rfl, ⟨hClose, rfl⟩ | ⟨hClose, rfl, hEnds, rfl⟩⟩
    · have hEnds : Ends isSelectorChar rest := by
        rcases hClose with hHead | hHead <;> exact ends_of_head? hHead (by decide)
      refine ⟨name, rest, ⟨hName, rfl, hEnds⟩, _, _, ⟨rfl, rfl⟩, ?_⟩
      rw [if_pos hClose]
      exact fail_eq_error.mpr rfl
    · refine ⟨[], rest, ⟨hName, rfl, hEnds⟩, _, _, ⟨rfl, rfl⟩, ?_⟩
      rw [if_neg (not_or.mpr hClose), if_pos List.isEmpty_nil]
      exact fail_eq_error.mpr rfl

end Reader

end LocaleMessage.Pattern
