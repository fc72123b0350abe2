import LocaleMessage.Proofs.Pattern.Refusing

/-! Patterns in front of each other. Behind an argument, and at the front, nothing is left of what
has been read but its place, so what stands there is read as a pattern of its own. -/
namespace LocaleMessage.Pattern

variable {input : List Char} {message : Message}

/-- A message that ends in an argument, or is empty, is arguments up to its end. So no text can go
on into what is put behind it. -/
theorem DerivesMessage.arguments {scope : Scope} (h : DerivesMessage scope input message [])
    (hLast : ∀ text, message.getLast? ≠ some (.literal text)) :
    DerivesArguments scope input message [] := by
  obtain ⟨elements, middle, text, hArguments, hText, rfl⟩ := h.exists_arguments
  cases text with
  | nil =>
      obtain ⟨rfl, -⟩ := hText.of_nil
      simpa [textElements] using hArguments
  | cons c others => exact absurd (by simp [textElements]) (hLast (String.ofList (c :: others)))

/-- Behind a pattern that is empty or ends in an argument another one stands for what it stands for
alone. Where it is refused, the error is the same but for its place, which is that much further on,
and for the pattern that it shows. -/
theorem parse_append {first : String} (h : parse first = .ok message)
    (hLast : ∀ text, message.getLast? ≠ some (.literal text)) (second : String) :
    (∀ others, parse second = .ok others → parse (first ++ second) = .ok (message ++ others)) ∧
      ∀ e, parse second = .error e → parse (first ++ second) =
        .error { e with
          position := e.position.behind first.toList
          pattern := first ++ second } := by
  have hDerived := derives_of_parseChars h
  obtain ⟨written, hFirst, hArguments⟩ := (hDerived.arguments hLast).exists_written
  obtain rfl : written = first.toList := by simpa using hFirst.symm
  have hBehind : DerivesArguments .root (first ++ second).toList message second.toList := by
    simpa using hArguments second.toList
  refine ⟨fun others hOthers => ?_, fun e hError => ?_⟩
  · have hMessage := derives_of_parseChars hOthers
    exact parseChars_of_derives (hBehind.message hMessage)
  · obtain ⟨failure, consumed, hRefused, hSplit, rfl, hPosition⟩ := exists_refusal_of_parse hError
    refine parse_eq_error_iff.mpr ⟨failure, hRefused.append hBehind, ?_⟩
    have hPlace : (failure.locate (first ++ second).toList).position =
        .after (first.toList ++ consumed) :=
      locate_position (by rw [List.append_assoc, hSplit, String.toList_append])
    rw [SyntaxError.mk.injEq]
    refine ⟨rfl, rfl, ?_, rfl, String.ofList_toList⟩
    rw [hPosition, ← Text.after_append, ← hPlace]

/-- The first pattern has two lines, and the second one ends in its name. -/
theorem parse_append_lines : ∃ message e, parse "a\n\x7bx\x7d" = .ok message ∧
    (∀ text, message.getLast? ≠ some (.literal text)) ∧ parse "b\x7by" = .error e ∧
    parse ("a\n\x7bx\x7d" ++ "b\x7by") = .error { e with
      position := ⟨8, 2, 7⟩
      pattern := "a\n\x7bx\x7d" ++ "b\x7by" } := by
  have hParse : ∃ message, parse "a\n\x7bx\x7d" = .ok message ∧
      ∀ text, message.getLast? ≠ some (.literal text) := by
    unfold parse
    simp only [String.reduceToList]
    exact ⟨_, rfl, by simp [literal]⟩
  have hError : ∃ e, parse "b\x7by" = .error e ∧ e.position = ⟨3, 1, 4⟩ := by
    unfold parse
    simp only [String.reduceToList]
    exact ⟨_, rfl, rfl⟩
  obtain ⟨message, hMessage, hLast⟩ := hParse
  obtain ⟨e, hError, hPosition⟩ := hError
  refine ⟨message, e, hMessage, hLast, hError, ?_⟩
  rw [(parse_append hMessage hLast _).2 e hError, hPosition]
  rfl

end LocaleMessage.Pattern
