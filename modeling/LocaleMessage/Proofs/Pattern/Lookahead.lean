import LocaleMessage.Proofs.Pattern.Refusing

/-! Refusals do not depend on what has not been read. Behind the character that a pattern is refused
at nothing has been looked at, but for three places: where a keyword or the number of an offset is
read as a whole, and behind `select`, which may go on to `selectordinal`. -/
namespace LocaleMessage.Pattern

open Reader

variable {scope : Scope} {input rest : List Char}

/-- Whether a text ends in the keyword `select` of an argument, with nothing behind it. There an `o`
may begin the rest of a longer keyword. -/
def AfterSelect (text : List Char) : Prop :=
  ∃ front id head before, text = front ++ '\x7b' :: (head ++ ',' :: (before ++ "select".toList)) ∧
    IsName isIdChar id ∧ Padded id head ∧ Blanks before

theorem AfterSelect.append {text : List Char} (h : AfterSelect text) (written : List Char) :
    AfterSelect (written ++ text) := by
  obtain ⟨front, id, head, before, rfl, hArgument⟩ := h
  exact ⟨written ++ front, id, head, before, by simp, hArgument⟩

/-- Whether an input is refused alike whatever stands behind the character that it is refused at,
unless the word that stands there was looked at as a whole. -/
def Settled (refuses : List Char → Failure → Prop) (input : List Char) (failure : Failure) : Prop :=
  failure.problem ≠ .expected .keyword → failure.problem ≠ .expected .offsetNumber →
    ∀ c rest, failure.rest = c :: rest → ∃ consumed, input = consumed ++ c :: rest ∧
      (c = 'o' ∧ AfterSelect consumed ∨
        ∀ others, refuses (consumed ++ c :: others) ⟨failure.problem, c :: others⟩)

section
variable {refuses refuses' : List Char → Failure → Prop} {failure : Failure}

/-- It is enough that the refusal is there for every continuation behind the character. At the end
of the pattern there is nothing to be shown. -/
theorem Settled.of_refuses {problem : Problem} (consumed : List Char)
    (hInput : input = consumed ++ rest)
    (h : ∀ c next others, rest = c :: next →
      refuses (consumed ++ c :: others) ⟨problem, c :: others⟩) :
    Settled refuses input ⟨problem, rest⟩ := by
  intro _ _ c next hRest
  obtain rfl : rest = c :: next := hRest
  exact ⟨consumed, hInput, Or.inr fun others => h c next others rfl⟩

/-- A refusal is settled in front of what stood there already. -/
theorem Settled.within {written : List Char} (h : Settled refuses input failure)
    (hRefuses : ∀ new failure, refuses new failure → refuses' (written ++ new) failure) :
    Settled refuses' (written ++ input) failure := by
  intro hKeyword hNumber c rest hRest
  obtain ⟨consumed, rfl, hSettled⟩ := h hKeyword hNumber c rest hRest
  refine ⟨written ++ consumed, by simp, ?_⟩
  rcases hSettled with ⟨hLetter, hSelect⟩ | hRefused
  · exact Or.inl ⟨hLetter, hSelect.append written⟩
  · exact Or.inr fun others => by simpa using hRefuses _ _ (hRefused others)

end

theorem Misses.cons {expected : List Char} {c : Char} (h : Misses expected (c :: rest))
    (others : List Char) : Misses expected (c :: others) :=
  ⟨ends_cons.mpr (ends_cons.mp h.1), h.2⟩

theorem StopsText.of_head? {rest' : List Char} (h : StopsText scope rest)
    (hHead : rest'.head? = rest.head?) : StopsText scope rest' :=
  fun c hc => h c (hHead ▸ hc)

/-- What is missing behind the branches of a clause is seen from them and from the next character,
but for the end of the pattern, which this leaves out. -/
theorem Unfinished.cons {clause : Clause} {branches : List (Branch Message)} {problem : Problem}
    {c : Char} (h : Unfinished clause branches (c :: rest) problem) (others : List Char) :
    Unfinished clause branches (c :: others) problem := by
  cases h with
  | empty => exact .empty
  | missingOther hNonempty hOther => exact .missingOther hNonempty hOther

-- By induction on the refusal: what has been derived up to the failure does not depend on the rest,
-- so only the last step is made again with another one.
mutual

/-- A refused message is settled: each refusal has looked at one character at most, or stands in an
argument. Induction is on the refusal, one case for each place. -/
theorem RefusesMessage.settled : {scope : Scope} → {input : List Char} → {failure : Failure} →
    RefusesMessage scope input failure → Settled (RefusesMessage scope) input failure
  | _, _, _, .unopened hArguments hText => by
      obtain ⟨written, hInput, hWritten⟩ := hArguments.exists_written_text hText (by simp)
      refine .of_refuses _ hInput fun c next others hRest => ?_
      obtain ⟨rfl, -⟩ := List.cons.inj hRest
      obtain ⟨middle, hArguments', hText'⟩ := hWritten _ (stopsText_brace _ others)
      exact .unopened hArguments' hText'
  | _, _, _, .argument hArguments hText hArgument => by
      obtain ⟨written, rfl, hWritten⟩ := hArguments.exists_written_text hText hArgument.ne_nil
      refine hArgument.settled.within fun new failure hRefused => ?_
      obtain ⟨middle, hArguments', hText'⟩ := hWritten new hRefused.stopsText
      exact .argument hArguments' hText' hRefused

/-- A refused argument is settled but for the three words; here the exceptions come from. -/
theorem RefusesArgument.settled : {scope : Scope} → {input : List Char} → {failure : Failure} →
    RefusesArgument scope input failure → Settled (RefusesArgument scope) input failure
  | _, _, _, @RefusesArgument.noId _ before _ hBefore hBlank hChar => by
      refine .of_refuses ('\x7b' :: before) (by simp) fun c next others hRest => ?_
      subst hRest
      exact .noId hBefore (ends_cons.mpr (ends_cons.mp hBlank)) (ends_cons.mpr (ends_cons.mp hChar))
  | _, _, _, @RefusesArgument.brokenId _ before name _ hBefore hName hBreak => by
      refine .of_refuses ('\x7b' :: (before ++ name)) (by simp)
        fun c next others hRest => ?_
      subst hRest
      have hBreak' : (c :: others).head? = some '\x7b' ∨ (c :: others).head? = some '#' := hBreak
      simpa using RefusesArgument.brokenId hBefore hName hBreak'
  | _, _, _, @RefusesArgument.afterId _ id before after _ hId hBefore hAfter hEnd hNext => by
      refine .of_refuses ('\x7b' :: (before ++ (id.toList ++ after))) (by simp)
        fun c next others hRest => ?_
      subst hRest
      have hSome : after ≠ [] := fun hNone => absurd (hEnd hNone) (by simp)
      simpa using RefusesArgument.afterId hId hBefore hAfter (absurd · hSome) (hNext.cons others)
  | _, _, _, .noKeyword .. => fun hKeyword => absurd rfl hKeyword
  | _, _, _, @RefusesArgument.afterKeyword _ id k head before after rest hId hHead hBefore hAfter
      hLeading hNext => by
      intro _ _ c next hRest
      obtain rfl : rest = c :: next := hRest
      refine ⟨'\x7b' :: (head ++ ',' :: (before ++ (k.text.toList ++ after))), by simp, ?_⟩
      by_cases hSelect : k = .clause .select ∧ after = [] ∧ c = 'o'
      · obtain ⟨rfl, rfl, rfl⟩ := hSelect
        exact Or.inl ⟨rfl, [], id, head, before, by simp [Keyword.text, Clause.text], hId, hHead,
          hBefore⟩
      · refine Or.inr fun others => ?_
        have hLeading' : Keyword.leading? (k.text.toList ++ (after ++ c :: others)) = some k := by
          refine leading?_append fun hk hHead => ?_
          cases after with
          | nil => exact hSelect ⟨hk, rfl, by simpa using hHead⟩
          | cons d blanks =>
              obtain rfl : d = 'o' := by simpa using hHead
              exact absurd (hAfter 'o' (by simp)) (by decide)
        simpa using RefusesArgument.afterKeyword hId hHead hBefore hAfter hLeading'
          (hNext.cons others)
  | _, _, _, @RefusesArgument.noStyle _ _ _ start before _ hStart hBefore hNext hStops => by
      refine .of_refuses (start ++ ',' :: before) (by simp)
        fun c next others hRest => ?_
      subst hRest
      have hStops' : StopsText .style (c :: others) := hStops.of_head? rfl
      have hNext' : Ends isBlank (c :: others) := ends_cons.mpr (ends_cons.mp hNext)
      simpa using RefusesArgument.noStyle hStart hBefore hNext' hStops'
  | scope, _, _, @RefusesArgument.afterStyle _ _ _ start before input style after rest hStart
      hBefore hStyle hNonempty hAfter hNext => by
      intro _ _ c next hRest
      obtain rfl : rest = c :: next := hRest
      have hStops := (maximalText_iff.mp hStyle).2
      obtain ⟨written, rfl, hWritten⟩ := hStyle.exists_written (by simp)
      refine ⟨start ++ ',' :: (before ++ (written ++ after)), by simp, Or.inr fun others => ?_⟩
      have hStyle' := hWritten (after ++ c :: others)
        (hStops.of_head? (by cases after <;> rfl))
      simpa using RefusesArgument.afterStyle hStart hBefore hStyle' hNonempty hAfter
        (hNext.cons others)
  | _, _, _, .noBranches hStart => by
      refine .of_refuses _ rfl fun c next others hRest => ?_
      obtain ⟨rfl, -⟩ := List.cons.inj hRest
      exact .noBranches hStart
  | _, _, _, .noOffset .. => fun _ hNumber => absurd rfl hNumber
  | _, _, _, @RefusesArgument.branches scope _ _ _ start before _ _ _ hStart hBefore hOpening
      hBranches => by
      obtain ⟨written, rfl, hWritten⟩ := hOpening.exists_written
      have hWithin : Settled (RefusesArgument scope) (start ++ ',' :: (before ++ written) ++ _) _ :=
        hBranches.settled.within fun new failure hNew => by
          simpa using RefusesArgument.branches hStart hBefore (hWritten new hNew.1) hNew.2
      simpa using hWithin
  | _, _, _, @RefusesArgument.unfinished _ _ _ _ start before _ _ _ _ _ hStart hBefore hOpening
      hBranches hEnd hProblem => by
      obtain ⟨opening, rfl, hOpened⟩ := hOpening.exists_written
      obtain ⟨written, rfl, -, hWritten⟩ := hBranches.exists_written
      refine .of_refuses (start ++ ',' :: (before ++ (opening ++ written))) (by simp)
        fun c next others hRest => ?_
      subst hRest
      obtain rfl : c = '\x7d' := by simpa using hEnd
      have hOpened' := hOpened (written ++ '\x7d' :: others)
        (keepsOffset_of_ends (ends_cons.mpr (by decide)) _ _)
      simpa using RefusesArgument.unfinished hStart hBefore hOpened' (hWritten _) (Or.inr rfl)
        (hProblem.cons others)

/-- Refused branches are settled. It is also kept that their beginning is not that of an offset,
because their clause needs it. -/
theorem RefusesBranches.settled : {scope : Scope} → {input : List Char} → {failure : Failure} →
    RefusesBranches scope input failure →
      Settled (fun new failure => KeepsOffset input new ∧ RefusesBranches scope new failure) input
        failure
  | _, _, _, .comma hBranches hComma => by
      obtain ⟨written, rfl, -, hWritten⟩ := hBranches.exists_written
      refine .of_refuses _ rfl fun c next others hRest => ?_
      subst hRest
      obtain rfl : c = ',' := by simpa using hComma
      exact ⟨keepsOffset_of_ends (ends_cons.mpr (by decide)) _ _, .comma (hWritten _) rfl⟩
  | _, _, _, .noSelector hBranches hBrace => by
      obtain ⟨written, rfl, -, hWritten⟩ := hBranches.exists_written
      refine .of_refuses _ rfl fun c next others hRest => ?_
      subst hRest
      obtain rfl : c = '\x7b' := by simpa using hBrace
      exact ⟨keepsOffset_of_ends (ends_cons.mpr (by decide)) _ _, .noSelector (hWritten _) rfl⟩
  | _, _, _, @RefusesBranches.brokenSelector _ name _ _ _ hBranches hName hBreak => by
      obtain ⟨written, rfl, -, hWritten⟩ := hBranches.exists_written
      refine .of_refuses (written ++ name.toList) (by simp)
        fun c next others hRest => ?_
      subst hRest
      have hEnds : Ends isSelectorChar (c :: others) := by
        rcases hBreak with hBreak | hBreak <;> exact ends_of_head? hBreak (by decide)
      have hKeeps := keepsOffset_of_ends hEnds (written ++ name.toList) (c :: next)
      have hBreak' : (c :: others).head? = some '\x7d' ∨ (c :: others).head? = some ',' := hBreak
      have hRefused := RefusesBranches.brokenSelector (hWritten _) hName hBreak'
      exact ⟨by simpa using hKeeps, by simpa using hRefused⟩
  | _, _, _, @RefusesBranches.afterSelector _ name _ between _ _ hBranches hName hBetween hEnd
      hNext => by
      obtain ⟨written, rfl, -, hWritten⟩ := hBranches.exists_written
      refine .of_refuses (written ++ (name.toList ++ between)) (by simp)
        fun c next others hRest => ?_
      subst hRest
      obtain ⟨blank, blanks, rfl⟩ := List.exists_cons_of_ne_nil fun hNone : between = [] =>
        absurd (hEnd hNone) (by simp)
      have hBreak : ∃ d ∈ written ++ (name.toList ++ blank :: blanks),
          isSelectorChar d = false := by
        refine ⟨blank, by simp, ?_⟩
        have hBlank := hBetween blank (by simp)
        cases hSelector : isSelectorChar blank with
        | false => rfl
        | true => simp [isBlank_of_isSelectorChar _ hSelector] at hBlank
      have hKeeps := keepsOffset_append hBreak (c :: next) (c :: others)
      have hRefused := RefusesBranches.afterSelector (hWritten _) hName hBetween (by simp)
        (hNext.cons others)
      exact ⟨by simpa using hKeeps, by simpa using hRefused⟩
  | _, _, _, .message hBranches hName hBetween hMessage => by
      obtain ⟨written, rfl, hStart⟩ := hBranches.exists_start
      exact hMessage.settled.within fun new failure hRefused =>
        ⟨(hStart new).1, .message (hStart new).2 hName hBetween hRefused⟩
  | _, _, _, .unclosed .. => fun _ _ _ _ hRest => nomatch hRest

end

/-- A pattern is not refused too early: what stands behind the character that it is refused at makes
no difference to the error, which differs in nothing but the pattern that it shows. -/
theorem parse_error_of_read {front back : String} {c : Char} {e : SyntaxError}
    (h : parse (front ++ (c.toString ++ back)) = .error e)
    (hOffset : front.utf8ByteSize = e.position.offset) (hKeyword : e.expected ≠ some .keyword)
    (hNumber : e.expected ≠ some .offsetNumber) (hSelect : ¬ (c = 'o' ∧ AfterSelect front.toList))
    (more : String) :
    parse (front ++ (c.toString ++ more)) =
      .error { e with pattern := front ++ (c.toString ++ more) } := by
  obtain ⟨failure, consumed, hRefused, hSplit, rfl, hPosition⟩ := exists_refusal_of_parse h
  have hPattern : (front ++ (c.toString ++ back)).toList = front.toList ++ c :: back.toList := by
    simp
  rw [hPosition, Text.offset_after, ← String.utf8Len_toList] at hOffset
  obtain rfl : front.toList = consumed :=
    Text.eq_of_utf8Len_eq ⟨_, hPattern.symm⟩ ⟨_, hSplit⟩ hOffset
  have hRest : failure.rest = c :: back.toList :=
    List.append_cancel_left (hSplit.trans hPattern)
  have hProblem : failure.problem ≠ .expected .keyword := by
    intro hProblem
    exact hKeyword (by simp [SyntaxError.expected, Failure.locate, hProblem])
  have hProblem' : failure.problem ≠ .expected .offsetNumber := by
    intro hProblem
    exact hNumber (by simp [SyntaxError.expected, Failure.locate, hProblem])
  obtain ⟨consumed, hConsumed, hSettled⟩ := hRefused.settled hProblem hProblem' c _ hRest
  obtain rfl : front.toList = consumed := List.append_cancel_right (hPattern.symm.trans hConsumed)
  have hMore : RefusesMessage .root (front ++ (c.toString ++ more)).toList
      ⟨failure.problem, c :: more.toList⟩ := by
    simpa using hSettled.resolve_left hSelect more.toList
  refine parse_eq_error_iff.mpr ⟨_, hMore, ?_⟩
  have hPosition' : (Failure.locate ⟨failure.problem, c :: more.toList⟩
      (front ++ (c.toString ++ more)).toList).position = .after front.toList :=
    locate_position (by simp)
  rw [SyntaxError.mk.injEq]
  refine ⟨rfl, ?_, hPosition'.trans hPosition.symm, ?_, String.ofList_toList⟩
  · simp [Failure.locate, hRest, Found.first]
  · simp [Failure.locate, Failure.suggestions, hProblem]

/-- A comma behind the first branch is refused, whatever comes next. What comes next here would have
opened a quoted run. -/
theorem parse_error_of_read_comma : ∃ e,
    parse ("\x7bn, plural, one \x7b\x7d" ++ (','.toString ++ " other \x7b\x7d\x7d")) = .error e ∧
      "\x7bn, plural, one \x7b\x7d".utf8ByteSize = e.position.offset ∧
      e.expected = some (.token '\x7b') ∧
      parse ("\x7bn, plural, one \x7b\x7d" ++ (','.toString ++ "'#")) =
        .error { e with pattern := "\x7bn, plural, one \x7b\x7d" ++ (','.toString ++ "'#") } := by
  have hParse : ∃ e,
      parse ("\x7bn, plural, one \x7b\x7d" ++ (','.toString ++ " other \x7b\x7d\x7d")) = .error e ∧
      "\x7bn, plural, one \x7b\x7d".utf8ByteSize = e.position.offset ∧
      e.expected = some (.token '\x7b') := by
    unfold parse
    simp only [String.toList_append, String.reduceToList]
    exact ⟨_, rfl, by decide, rfl⟩
  obtain ⟨e, hError, hOffset, hExpected⟩ := hParse
  exact ⟨e, hError, hOffset, hExpected, parse_error_of_read hError hOffset (by simp [hExpected])
    (by simp [hExpected]) (by simp) "'#"⟩

end LocaleMessage.Pattern
