import LocaleMessage.Pattern.Encoded
import LocaleMessage.Proofs.Pattern.Failure
import LocaleMessage.Proofs.Text.Utf8

/-! Patterns that are given as bytes. They are read as the text that they are, and where they are
none, the error stands behind the text that they begin with. -/
namespace LocaleMessage.Pattern

/-- Bytes of a text are read as the text. All others are refused at the end of the longest text at
their front, in the line and the column that any error at its end has. -/
theorem parseBytes_eq (bytes : List UInt8) :
    (∀ pattern : String, bytes.toByteArray = pattern.toUTF8 → parseBytes bytes = parse pattern) ∧
      (¬ bytes.toByteArray.IsValidUTF8 → ∃ e valid, parseBytes bytes = .error e ∧
        e.found.text = "invalid UTF-8" ∧ e.expected.map Expectation.text = some "UTF-8 pattern" ∧
        Text.Utf8.IsLongestText valid bytes ∧ e.position.offset = valid.utf8ByteSize ∧
        e.position.IsIn valid.toList ∧
        ∀ problem, e.position = (Failure.locate ⟨problem, []⟩ valid.toList).position) := by
  constructor
  · intro pattern hBytes
    rw [parseBytes, Text.Utf8.decode_of_toUTF8 hBytes]
    rfl
  · intro hInvalid
    have hLongest := Text.Utf8.isLongestText_decode bytes
    rw [parseBytes]
    obtain ⟨b, others, hRest⟩ :=
      List.exists_cons_of_ne_nil (hInvalid ∘ Text.Utf8.isValidUTF8_iff.mpr)
    generalize Text.Utf8.decode bytes = decoded at hRest hLongest
    obtain ⟨valid, rest⟩ := decoded
    obtain rfl : rest = b :: others := hRest
    refine ⟨_, String.ofList valid, rfl, rfl, rfl, hLongest, ?_, ?_, fun problem => ?_⟩
    · rw [Text.offset_after, String.utf8ByteSize_ofList]
    · rw [String.toList_ofList]
      exact Text.isIn_iff.mpr ⟨valid, List.prefix_refl valid, rfl⟩
    · rw [String.toList_ofList, locate_position (List.append_nil valid)]

/-- The third byte of a character is missing, behind a line feed and a character of two bytes. -/
theorem parseBytes_eq_truncated :
    parseBytes [0x7B, 0xC3, 0xA9, 0x7D] = parse "\x7bé\x7d" ∧
      ∃ e, parseBytes [0x61, 0x0A, 0xC3, 0xA9, 0xE2, 0x82] = .error e ∧
        e.found.text = "invalid UTF-8" ∧ e.position = ⟨4, 2, 2⟩ := by
  have hText : [0x7B, 0xC3, 0xA9, 0x7D].toByteArray = "\x7bé\x7d".toUTF8 := by decide
  have hDecode : Text.Utf8.decode [0x61, 0x0A, 0xC3, 0xA9, 0xE2, 0x82] =
      (['a', '\n', 'é'], [0xE2, 0x82]) := by decide
  have hInvalid : ¬ [0x61, 0x0A, 0xC3, 0xA9, 0xE2, 0x82].toByteArray.IsValidUTF8 := by
    rw [Text.Utf8.isValidUTF8_iff, hDecode]
    exact List.cons_ne_nil _ _
  obtain ⟨e, _, hError, hFound, _⟩ := (parseBytes_eq _).2 hInvalid
  refine ⟨(parseBytes_eq _).1 _ hText, e, hError, hFound, ?_⟩
  rw [parseBytes, hDecode, Except.error.injEq] at hError
  rw [← hError]
  rfl

end LocaleMessage.Pattern
