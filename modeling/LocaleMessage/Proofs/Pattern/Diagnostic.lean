import LocaleMessage.Pattern.Diagnostic
import LocaleMessage.Proofs.Pattern.Failure

/-! What an error covers of a source text that it is shown in. Where the text is the pattern that
was refused, this is what was found there; in another text the offset may lie inside a character,
and then the error cannot be shown. -/
namespace LocaleMessage.Pattern

open String (utf8Len)

/-- A place behind the first character is one of the others. Offsets are shifted by the bytes of the
character. -/
theorem exists_split_cons {c : Char} {others : List Char} {offset : Nat} {p : List Char → Prop} :
    (∃ before rest, c :: others = before ++ rest ∧ utf8Len before = offset + 1 ∧ p rest) ↔
      ∃ before rest, others = before ++ rest ∧
        utf8Len before + c.utf8Size = offset + 1 ∧ p rest := by
  constructor
  · rintro ⟨_ | ⟨d, before⟩, rest, hSplit, hLen, hRest⟩
    · simp at hLen
    · obtain ⟨rfl, rfl⟩ := List.cons.inj hSplit
      exact ⟨before, rest, rfl, hLen, hRest⟩
  · rintro ⟨before, rest, rfl, hLen, hRest⟩
    exact ⟨c :: before, rest, rfl, hLen, hRest⟩

/-- An offset has an answer where characters meet, and the answer is what follows there. At the end
of the text it is that nothing follows. -/
theorem charAt?_eq_some_iff {text : List Char} {offset : Nat} {found : Option Char} :
    charAt? text offset = some found ↔
      ∃ before rest, text = before ++ rest ∧ utf8Len before = offset ∧ rest.head? = found := by
  fun_induction charAt? text offset with
  | case1 text =>
      constructor
      · intro h
        exact ⟨[], text, rfl, rfl, Option.some.inj h⟩
      · rintro ⟨before, rest, rfl, hLen, rfl⟩
        obtain rfl : before = [] := by simpa using hLen
        rfl
  | case2 offset => simp
  | case3 c others offset hFits ih =>
      have hLater (before : List Char) : utf8Len before = offset + 1 - c.utf8Size ↔
          utf8Len before + c.utf8Size = offset + 1 := by omega
      rw [ih, exists_split_cons]
      simp only [hLater]
  | case4 c others offset hInside =>
      rw [exists_split_cons]
      simp only [reduceCtorEq, false_iff]
      rintro ⟨before, rest, _, hLen, _⟩
      omega

theorem charAt?_isSome_iff {source : String} {offset : Nat} :
    (charAt? source.toList offset).isSome ↔ String.Pos.Raw.IsValid source ⟨offset⟩ := by
  rw [Option.isSome_iff_exists]
  simp only [charAt?_eq_some_iff]
  constructor
  · rintro ⟨_, before, rest, hSource, rfl, rfl⟩
    exact Text.isValid_utf8Len hSource
  · intro h
    obtain ⟨n, hLen⟩ := String.Pos.Raw.isValid_iff_exists_take_toList.mp h
    refine ⟨_, source.toList.take n, source.toList.drop n, (List.take_append_drop n _).symm, ?_,
      rfl⟩
    rw [← String.utf8ByteSize_ofList]
    exact hLen.symm

/-- The label covers this of the source, a whole character or nothing, from where one character ends
to where another begins. -/
structure Label.Covers (label : Label) (source : String) (covered : Option Char) : Prop where
  starts : String.Pos.Raw.IsValid source ⟨label.offset⟩
  ends : String.Pos.Raw.IsValid source ⟨label.offset + label.length⟩
  covered : ∃ before after, source.toList = before ++ covered.toList ++ after ∧
    label.offset = utf8Len before ∧ label.length = utf8Len covered.toList

theorem Label.covers_head? {label : Label} {source : String} {before rest : List Char}
    (hSource : source.toList = before ++ rest) (hOffset : label.offset = utf8Len before)
    (hLength : label.length = (rest.head?.map Char.utf8Size).getD 0) :
    label.Covers source rest.head? := by
  have hRest : rest.head?.toList ++ rest.tail = rest := by cases rest <;> rfl
  have hCovered : label.length = utf8Len rest.head?.toList := by
    rw [hLength]
    cases rest <;> simp
  have hSplit : source.toList = before ++ rest.head?.toList ++ rest.tail := by
    rw [List.append_assoc, hRest, hSource]
  refine ⟨?_, ?_, before, rest.tail, hSplit, hOffset, hCovered⟩
  · rw [hOffset]
    exact Text.isValid_utf8Len hSource
  · rw [hOffset, hCovered, ← String.utf8Len_append]
    exact Text.isValid_utf8Len hSplit

namespace SyntaxError

variable {e : SyntaxError} {source : String}

/-- Where an error is shown: at its offset, or at the end of a source that is shorter. The source
need not be the pattern. -/
def shownAt (e : SyntaxError) (source : String) : Nat :=
  min e.position.offset source.utf8ByteSize

/-- An error can be shown in just those texts that have no character around the place. Shorter texts
are never in the way. -/
theorem diagnostic?_isSome_iff :
    (e.diagnostic? source).isSome ↔ String.Pos.Raw.IsValid source ⟨e.shownAt source⟩ := by
  rw [← charAt?_isSome_iff, diagnostic?, shownAt]
  cases charAt? source.toList (min e.position.offset source.utf8ByteSize) <;> rfl

/-- What is shown covers the character behind the place, and nothing at the end of the source. -/
theorem covers_of_diagnostic? {d : Diagnostic} (h : e.diagnostic? source = some d) :
    d.label.offset = e.shownAt source ∧ ∃ covered, d.label.Covers source covered ∧
      (covered = none ↔ d.label.offset = source.utf8ByteSize) := by
  obtain ⟨found, hFound, hShown⟩ := Option.bind_eq_some_iff.mp h
  obtain rfl := Option.some.inj hShown
  obtain ⟨before, rest, hSource, hLen, rfl⟩ := charAt?_eq_some_iff.mp hFound
  refine ⟨rfl, rest.head?, Label.covers_head? hSource hLen.symm rfl, ?_⟩
  rw [List.head?_eq_none_iff, ← Text.offset_after_eq_iff hSource, Text.offset_after, hLen]

/-- In the pattern that was refused the error is shown where it is, and what is covered is what was
found there; nothing is covered just when that is the end of the pattern. -/
theorem diagnostic?_of_parse {pattern : String} (h : parse pattern = .error e) :
    ∃ d covered, e.diagnostic? pattern = some d ∧ d.label.offset = e.position.offset ∧
      d.label.Covers pattern covered ∧ (∀ c, covered = some c → e.found.text = c.toString) ∧
      (covered = none ↔
        e.found.text = "end of input" ∧ e.position.offset = pattern.utf8ByteSize) := by
  obtain ⟨failure, consumed, hSplit, rfl⟩ := exists_failure_of_parse h
  have hOffset : (failure.locate pattern.toList).position.offset = utf8Len consumed := by
    rw [locate_position hSplit, Text.offset_after]
  have hShown : (failure.locate pattern.toList).shownAt pattern = utf8Len consumed := by
    rw [shownAt, Nat.min_eq_left (describes_locate hSplit).offset_le, hOffset]
  have hNext : charAt? pattern.toList ((failure.locate pattern.toList).shownAt pattern) =
      some failure.rest.head? :=
    charAt?_eq_some_iff.mpr ⟨consumed, failure.rest, hSplit.symm, hShown.symm, rfl⟩
  have hEnd : (failure.locate pattern.toList).position.offset = pattern.utf8ByteSize ↔
      failure.rest = [] := by
    rw [hOffset, ← Text.offset_after, Text.offset_after_eq_iff hSplit.symm]
  refine ⟨_, failure.rest.head?, Option.bind_eq_some_iff.mpr ⟨_, hNext, rfl⟩,
    hShown.trans hOffset.symm, Label.covers_head? hSplit.symm hShown rfl, ?_, ?_⟩
  · intro c hFound
    obtain ⟨others, hRest⟩ := List.head?_eq_some_iff.mp hFound
    simp [Failure.locate, hRest, Found.first, Found.text]
  · rw [hEnd, List.head?_eq_none_iff]
    constructor
    · intro hRest
      exact ⟨by simp [Failure.locate, hRest, Found.first, Found.text], hRest⟩
    · exact And.right

/-- An error behind the first byte cannot be shown in a text whose first character has two. The text
is as long as the offset asks for. -/
theorem diagnostic?_inside_character :
    ∃ e, parse "a\x7d" = .error e ∧ e.diagnostic? "é" = none := by
  have hParse : ∃ e, parse "a\x7d" = .error e ∧ e.position.offset = 1 := by
    unfold parse
    simp only [String.reduceToList]
    exact ⟨_, rfl, rfl⟩
  obtain ⟨e, hError, hOffset⟩ := hParse
  have hInside : charAt? "é".toList (min 1 "é".utf8ByteSize) = none := by decide
  refine ⟨e, hError, ?_⟩
  rw [diagnostic?, hOffset, hInside]
  rfl

end SyntaxError

end LocaleMessage.Pattern
