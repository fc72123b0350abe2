import LocaleMessage.Proofs.Pattern.Text

/-! What the readers of names, keywords, styles, offsets and selectors accept, each said by one
equivalence. Readers of messages are proved from these and never open them. -/
namespace LocaleMessage.Pattern

open Reader

variable {input rest : List Char}

theorem ends_cons {p : Char → Bool} {c : Char} : Ends p (c :: rest) ↔ p c = false := by
  simp [Ends]

/-- A run of the class splits off in one way only: it is as long as it can be. Every reader of
characters comes down to this. -/
theorem span_eq_iff {p : Char → Bool} {run : List Char} :
    input.takeWhile p = run ∧ input.dropWhile p = rest ↔
      (∀ c ∈ run, p c = true) ∧ input = run ++ rest ∧ Ends p rest := by
  constructor
  · rintro ⟨rfl, rfl⟩
    refine ⟨List.all_eq_true.mp List.all_takeWhile, List.takeWhile_append_dropWhile.symm, ?_⟩
    intro c hHead
    have hNot := List.head?_dropWhile_not p input
    rw [hHead] at hNot
    exact hNot
  · rintro ⟨hRun, rfl, hEnds⟩
    rw [List.takeWhile_append_of_pos hRun, List.dropWhile_append_of_pos hRun]
    cases rest with
    | nil => simp
    | cons c others =>
        have hc : p c = false := ends_cons.mp hEnds
        simp [hc]

theorem blanks_nil : Blanks [] := by
  simp [Blanks]

/-- Blanks in front of something that is not blank are all blanks there are. -/
theorem Blanks.eq_nil_of_ends {run : List Char} (hRun : Blanks run)
    (hEnds : Ends isBlank (run ++ rest)) : run = [] := by
  cases run with
  | nil => rfl
  | cons c others =>
      have hBlank := hRun c (List.mem_cons_self ..)
      have hNot : isBlank c = false := hEnds c rfl
      simp [hBlank] at hNot

/-- Behind blanks that `c` follows there is a blank or `c`. -/
theorem Blanks.head_append {run : List Char} {c d : Char} (hRun : Blanks run)
    (hHead : (run ++ c :: rest).head? = some d) : isBlank d = true ∨ d = c := by
  cases run with
  | nil => exact Or.inr (by simpa [eq_comm] using hHead)
  | cons e others =>
      obtain rfl : e = d := by simpa using hHead
      exact Or.inl (hRun e (List.mem_cons_self ..))

/-- A character that is neither a blank nor what follows the blanks does not come next, even where
there are no blanks. -/
theorem Blanks.head_append_ne {run : List Char} {c d : Char} (hRun : Blanks run)
    (hd : isBlank d = false) (hc : d ≠ c) : (run ++ c :: rest).head? ≠ some d := by
  intro hHead
  rcases hRun.head_append hHead with hBlank | hEq
  · simp [hd] at hBlank
  · exact hc hEq

/-- Blanks end every class without blanks in it, and so does the character behind them if there are
none. -/
theorem Blanks.ends_append {p : Char → Bool} {run : List Char} {c : Char} (hRun : Blanks run)
    (hClass : ∀ d, p d = true → isBlank d = false) (hc : p c = false) :
    Ends p (run ++ c :: rest) := by
  intro d hHead
  rcases hRun.head_append hHead with hBlank | rfl
  · cases hp : p d with
    | false => rfl
    | true => simp [hClass d hp] at hBlank
  · exact hc

/-- A name is not empty, so its first character comes next whatever follows. -/
theorem IsName.head {p : Char → Bool} {name : String} (hName : IsName p name) (rest : List Char) :
    ∃ c others, name.toList ++ rest = c :: others ∧ p c = true := by
  obtain ⟨hNonempty, hChars⟩ := hName
  cases hList : name.toList with
  | nil => exact absurd (by simpa using hList) hNonempty
  | cons c others => exact ⟨c, others ++ rest, rfl, hChars c (by simp [hList])⟩

/-- A name ends every class that has none of its characters. -/
theorem IsName.ends_append {p q : Char → Bool} {name : String} (hName : IsName p name)
    (hClass : ∀ c, p c = true → q c = false) (rest : List Char) : Ends q (name.toList ++ rest) := by
  obtain ⟨c, others, hSplit, hc⟩ := hName.head rest
  rw [hSplit]
  exact ends_cons.mpr (hClass c hc)

/-- Names are told by their characters. Only the empty list of characters has to be left out. -/
theorem isName_ofList {p : Char → Bool} {name : List Char} :
    IsName p (String.ofList name) ↔ name ≠ [] ∧ ∀ c ∈ name, p c = true := by
  simp [IsName]

/-- Names of arguments have no blanks in them, which is why blanks around a name belong to it in one
way only. -/
theorem isBlank_of_isIdChar (c : Char) (h : isIdChar c = true) : isBlank c = false := by
  simp only [isIdChar, Bool.not_eq_true', Bool.or_eq_false_iff] at h
  exact h.2

theorem isBlank_of_isSelectorChar (c : Char) (h : isSelectorChar c = true) : isBlank c = false := by
  simp only [isSelectorChar, Bool.not_eq_true', Bool.or_eq_false_iff] at h
  exact h.2

theorem isBlank_of_isDigit (c : Char) (h : c.isDigit = true) : isBlank c = false := by
  cases hBlank : isBlank c with
  | false => rfl
  | true =>
      simp only [isBlank, Bool.or_eq_true, decide_eq_true_eq] at hBlank
      rcases hBlank with (((((((rfl | rfl) | rfl) | rfl) | rfl) | rfl) | rfl) | rfl) | rfl <;>
        simp at h

namespace Reader

theorem bind_eq_ok {α β : Type} {x : Reader α} {f : α → Reader β} {b : β} :
    (x >>= f) input = .ok (b, rest) ↔
      ∃ a next, x input = .ok (a, next) ∧ f a next = .ok (b, rest) := by
  change (x input >>= fun p => f p.1 p.2) = _ ↔ _
  cases x input with
  | error e => simp [bind, Except.bind]
  | ok p =>
      obtain ⟨a, next⟩ := p
      simp [bind, Except.bind]

theorem pure_eq_ok {α : Type} {a b : α} :
    (pure a : Reader α) input = .ok (b, rest) ↔ b = a ∧ rest = input := by
  change Except.ok (a, input) = _ ↔ _
  simp [eq_comm]

theorem fail_eq_ok {α : Type} {problem : Problem} {a : α} :
    (fail problem : Reader α) input = .ok (a, rest) ↔ False := by
  simp [fail]

/-- Looking at the next character takes nothing. At the end there is none. -/
theorem peek_eq_ok {next : Option Char} :
    peek input = .ok (next, rest) ↔ next = input.head? ∧ rest = input := by
  simp [peek, eq_comm]

/-- Blanks are skipped up to something that is not blank. There may be none, so this never fails. -/
theorem skipBlanks_eq_ok {u : Unit} :
    skipBlanks input = .ok (u, rest) ↔
      ∃ run, Blanks run ∧ input = run ++ rest ∧ Ends isBlank rest := by
  have h (run : List Char) : input.takeWhile isBlank = run ∧ input.dropWhile isBlank = rest ↔ _ :=
    span_eq_iff
  simp only [skipBlanks, Except.ok.injEq, Prod.mk.injEq, true_and]
  constructor
  · intro hDrop
    exact ⟨_, (h _).mp ⟨rfl, hDrop⟩⟩
  · rintro ⟨run, hRun⟩
    exact ((h run).mpr hRun).2

theorem charsWhile_eq_ok {p : Char → Bool} {run : List Char} :
    charsWhile p input = .ok (run, rest) ↔
      (∀ c ∈ run, p c = true) ∧ input = run ++ rest ∧ Ends p rest := by
  simp only [charsWhile, Except.ok.injEq, Prod.mk.injEq]
  exact span_eq_iff

/-- A character is taken if it comes next, and otherwise nothing is taken. -/
theorem accept_eq_ok {c : Char} {accepted : Bool} :
    accept c input = .ok (accepted, rest) ↔
      (accepted = true ∧ input = c :: rest) ∨
        (accepted = false ∧ input.head? ≠ some c ∧ rest = input) := by
  cases input with
  | nil => simp [accept, eq_comm]
  | cons d others =>
      by_cases hd : d = c
      · simp [accept, hd, eq_comm]
      · have hc : c ≠ d := Ne.symm hd
        simp [accept, hd, hc, eq_comm]

theorem expect_eq_ok {c : Char} {u : Unit} :
    expect c input = .ok (u, rest) ↔ input = c :: rest := by
  cases input with
  | nil => simp [expect]
  | cons d others => by_cases hd : d = c <;> simp [expect, hd]

/-- Text is read as the grammar has it: units of text, as far as there are any. -/
theorem text_eq_ok {scope : Scope} {value : List Char} :
    text scope input = .ok (value, rest) ↔ MaximalText scope input value rest := by
  rw [← readText_eq_iff]
  simp [text]

/-- Of the keywords only `select` begins another one. So behind it one character has to be looked
at, and behind the others none. -/
theorem leading?_append {k : Keyword} (hNext : k = .clause .select → rest.head? ≠ some 'o') :
    Keyword.leading? (k.text.toList ++ rest) = some k := by
  cases k with
  | format f => cases f <;> rfl
  | clause clause =>
      cases clause with
      | plural | selectordinal => rfl
      | select =>
          have hOrdinal : ['o', 'r', 'd', 'i', 'n', 'a', 'l'].isPrefixOf rest = false := by
            cases rest with
            | nil => rfl
            | cons c others =>
                have hc : 'o' ≠ c := by simpa [eq_comm] using hNext rfl
                simp [List.isPrefixOf, hc]
          simp [Keyword.leading?, Keyword.all, Keyword.text, Format.text, Clause.text,
            List.isPrefixOf, hOrdinal]

theorem append_of_leading? {k : Keyword} (h : Keyword.leading? input = some k) :
    input = k.text.toList ++ input.drop k.text.length := by
  have hPrefix : k.text.toList.isPrefixOf input = true := by
    simpa using List.find?_some h
  obtain ⟨others, rfl⟩ := List.isPrefixOf_iff_prefix.mp hPrefix
  rw [← String.length_toList, List.drop_left]

/-- A name may be read in front of anything that ends it, unless a brace or a number sign does. The
blanks on both sides are read with it. -/
theorem argumentId_eq_ok_any {id : String} :
    argumentId input = .ok (id, rest) ↔
      IsName isIdChar id ∧ ∃ before after, Blanks before ∧ Blanks after ∧
        input = before ++ (id.toList ++ (after ++ rest)) ∧ Ends isBlank rest ∧
        Ends isIdChar (after ++ rest) ∧ (after ++ rest).head? ≠ some '\x7b' ∧
        (after ++ rest).head? ≠ some '#' := by
  simp only [argumentId, bind_eq_ok, skipBlanks_eq_ok, charsWhile_eq_ok, peek_eq_ok]
  constructor
  · rintro ⟨_, _, ⟨before, hBefore, rfl, _⟩, name, _, ⟨hName, rfl, hEnds⟩, _, _, ⟨rfl, rfl⟩, h⟩
    split at h
    · simp [fail_eq_ok] at h
    · rename_i hGuard
      simp only [bind_eq_ok, skipBlanks_eq_ok, pure_eq_ok] at h
      obtain ⟨_, _, ⟨after, hAfter, rfl, hRest⟩, rfl, rfl⟩ := h
      simp only [Bool.or_eq_true, List.isEmpty_iff, decide_eq_true_eq, not_or] at hGuard
      exact ⟨isName_ofList.mpr ⟨hGuard.1.1, hName⟩, before, after, hBefore, hAfter, by simp, hRest,
        hEnds, hGuard.1.2, hGuard.2⟩
  · rintro ⟨hId, before, after, hBefore, hAfter, rfl, hRest, hEnds, hOpen, hSign⟩
    have hNonempty : id.toList.isEmpty = false := by simpa using hId.1
    refine ⟨(), _, ⟨before, hBefore, rfl, hId.ends_append isBlank_of_isIdChar _⟩, id.toList, _,
      ⟨hId.2, rfl, hEnds⟩, _, _, ⟨rfl, rfl⟩, ?_⟩
    rw [if_neg (by simp only [hNonempty, hOpen, hSign]; decide)]
    simp only [bind_eq_ok, skipBlanks_eq_ok, pure_eq_ok]
    exact ⟨(), rest, ⟨after, hAfter, rfl, hRest⟩, by simp, rfl⟩

theorem ends_isBlank_keyword (k : Keyword) (rest : List Char) :
    Ends isBlank (k.text.toList ++ rest) := by
  cases k with
  | format f => cases f <;> simp [Keyword.text, Format.text, Ends, isBlank]
  | clause clause => cases clause <;> simp [Keyword.text, Clause.text, Ends, isBlank]

/-- A keyword may be read in front of anything that is not part of a longer one. More letters behind
it do not make it another word. -/
theorem keyword_eq_ok_any {k : Keyword} :
    keyword input = .ok (k, rest) ↔
      ∃ before after, Blanks before ∧ Blanks after ∧
        input = before ++ (k.text.toList ++ (after ++ rest)) ∧
        Keyword.leading? (k.text.toList ++ (after ++ rest)) = some k ∧ Ends isBlank rest := by
  simp only [keyword, bind_eq_ok, skipBlanks_eq_ok]
  constructor
  · rintro ⟨_, start, ⟨before, hBefore, rfl, _⟩, k', next, hKeyword, _, _,
      ⟨after, hAfter, rfl, hRest⟩, h⟩
    obtain ⟨rfl, rfl⟩ := pure_eq_ok.mp h
    cases hLeading : Keyword.leading? start with
    | none => simp [hLeading] at hKeyword
    | some k' =>
        simp only [hLeading, Except.ok.injEq, Prod.mk.injEq] at hKeyword
        obtain ⟨rfl, hNext⟩ := hKeyword
        have hStart := append_of_leading? hLeading
        rw [hNext] at hStart
        exact ⟨before, after, hBefore, hAfter, by rw [hStart], hStart ▸ hLeading, hRest⟩
  · rintro ⟨before, after, hBefore, hAfter, rfl, hLeading, hRest⟩
    refine ⟨(), _, ⟨before, hBefore, rfl, ends_isBlank_keyword k _⟩, k, after ++ rest, ?_, (), rest,
      ⟨after, hAfter, rfl, hRest⟩, pure_eq_ok.mpr ⟨rfl, rfl⟩⟩
    rw [hLeading]
    simp [← String.length_toList]

section
variable {c : Char} (hc : c = '\x7d' ∨ c = ',')
include hc

/-- In front of a closing brace or a comma a name is read exactly where it stands with blanks around
it. -/
theorem argumentId_eq_ok {id : String} :
    argumentId input = .ok (id, c :: rest) ↔
      IsName isIdChar id ∧ ∃ head, Padded id head ∧ input = head ++ c :: rest := by
  rw [argumentId_eq_ok_any]
  refine and_congr_right fun hId => ⟨?_, ?_⟩
  · rintro ⟨before, after, hBefore, hAfter, rfl, -⟩
    exact ⟨_, .mk hBefore hAfter, by simp⟩
  · rintro ⟨_, @⟨before, after, hBefore, hAfter⟩, rfl⟩
    refine ⟨before, after, hBefore, hAfter, by simp, ends_cons.mpr ?_,
      hAfter.ends_append isBlank_of_isIdChar ?_, hAfter.head_append_ne (by decide) ?_,
      hAfter.head_append_ne (by decide) ?_⟩ <;>
    rcases hc with rfl | rfl <;> decide

/-- In front of a closing brace or a comma a keyword is read exactly where it stands with blanks
around it; there no longer one can have begun. -/
theorem keyword_eq_ok {k : Keyword} :
    keyword input = .ok (k, c :: rest) ↔
      ∃ written, Padded k.text written ∧ input = written ++ c :: rest := by
  rw [keyword_eq_ok_any]
  constructor
  · rintro ⟨before, after, hBefore, hAfter, rfl, -⟩
    exact ⟨_, .mk hBefore hAfter, by simp⟩
  · rintro ⟨_, @⟨before, after, hBefore, hAfter⟩, rfl⟩
    have hNext : (after ++ c :: rest).head? ≠ some 'o' :=
      hAfter.head_append_ne (by decide) (by rcases hc with rfl | rfl <;> decide)
    exact ⟨before, after, hBefore, hAfter, by simp, leading?_append fun _ => hNext,
      ends_cons.mpr (by rcases hc with rfl | rfl <;> decide)⟩

end

/-- A style is text that stands for something, between blanks. Only a quoted blank belongs to it,
since any other one ends its text. -/
theorem styleName_eq_ok_any {style : String} :
    styleName input = .ok (style, rest) ↔
      ∃ before start value after, Blanks before ∧ input = before ++ start ∧
        MaximalText .style start value (after ++ rest) ∧ value ≠ [] ∧ Blanks after ∧
        Ends isBlank rest ∧ style = String.ofList value := by
  simp only [styleName, bind_eq_ok, skipBlanks_eq_ok, text_eq_ok]
  constructor
  · rintro ⟨_, start, ⟨before, hBefore, rfl, _⟩, value, next, hText, h⟩
    split at h
    · simp [fail_eq_ok] at h
    · rename_i hNonempty
      simp only [bind_eq_ok, skipBlanks_eq_ok, pure_eq_ok] at h
      obtain ⟨_, _, ⟨after, hAfter, rfl, hRest⟩, rfl, rfl⟩ := h
      exact ⟨before, start, value, after, hBefore, rfl, hText, by simpa using hNonempty, hAfter,
        hRest, rfl⟩
  · rintro ⟨before, start, value, after, hBefore, rfl, hText, hNonempty, hAfter, hRest, rfl⟩
    have hStart : Ends isBlank start := by
      obtain ⟨c, others, rfl, hOrdinary⟩ := hText.1.head_of_ne_nil hNonempty
      refine ends_cons.mpr ?_
      cases hBlank : isBlank c with
      | false => rfl
      | true => simp [Scope.isSpecial, hBlank] at hOrdinary
    refine ⟨(), start, ⟨before, hBefore, rfl, hStart⟩, value, _, hText, ?_⟩
    rw [if_neg (by simpa using hNonempty)]
    simp only [bind_eq_ok, skipBlanks_eq_ok]
    exact ⟨(), rest, ⟨after, hAfter, rfl, hRest⟩, pure_eq_ok.mpr ⟨rfl, rfl⟩⟩

/-- In front of the closing brace a style needs no condition on what follows, since the brace is not
blank. -/
theorem styleName_eq_ok {style : String} :
    styleName input = .ok (style, '\x7d' :: rest) ↔
      ∃ before start value after, Blanks before ∧ input = before ++ start ∧
        MaximalText .style start value (after ++ '\x7d' :: rest) ∧ value ≠ [] ∧ Blanks after ∧
        style = String.ofList value := by
  have hEnds : Ends isBlank ('\x7d' :: rest) := ends_cons.mpr (by decide)
  simp only [styleName_eq_ok_any, hEnds, true_and]

/-- What may stand behind the keyword of a formatted argument: the closing brace, or a comma and a
style in front of it. -/
theorem formatted_eq_ok {id : String} {f : Format} {element : Element} :
    formatted id f input = .ok (element, rest) ↔
      (input = '\x7d' :: rest ∧ element = f.element id none) ∨
        ∃ start style, input = ',' :: start ∧ styleName start = .ok (style, '\x7d' :: rest) ∧
          element = f.element id (some style) := by
  constructor
  · intro h
    simp only [formatted, bind_eq_ok, accept_eq_ok] at h
    obtain ⟨_, _, ⟨rfl, rfl⟩ | ⟨rfl, _, rfl⟩, h⟩ := h
    · obtain ⟨rfl, rfl⟩ := pure_eq_ok.mp h
      exact Or.inl ⟨rfl, rfl⟩
    · simp only [Bool.false_eq_true, if_false, bind_eq_ok, expect_eq_ok, pure_eq_ok] at h
      obtain ⟨_, start, rfl, style, _, hStyle, _, _, rfl, rfl, rfl⟩ := h
      exact Or.inr ⟨start, style, rfl, hStyle, rfl⟩
  · simp only [formatted, bind_eq_ok, accept_eq_ok]
    rintro (⟨rfl, rfl⟩ | ⟨start, style, rfl, hStyle, rfl⟩)
    · exact ⟨true, rest, Or.inl ⟨rfl, rfl⟩, pure_eq_ok.mpr ⟨rfl, rfl⟩⟩
    · refine ⟨false, ',' :: start, Or.inr ⟨rfl, by simp, rfl⟩, ?_⟩
      simp only [Bool.false_eq_true, if_false, bind_eq_ok, expect_eq_ok, pure_eq_ok]
      exact ⟨(), start, rfl, style, _, hStyle, (), rest, rfl, rfl, rfl⟩

/-- An offset is written in digits, all that stand there, and has to fit in a word. Zeros in front
do no harm. -/
theorem offsetNumber_eq_ok {offset : UInt32} :
    offsetNumber input = .ok (offset, rest) ↔
      ∃ digits, (digits ≠ [] ∧ ∀ c ∈ digits, c.isDigit = true) ∧
        digitsValue digits < UInt32.size ∧ offset = UInt32.ofNat (digitsValue digits) ∧
        input = digits ++ rest ∧ Ends Char.isDigit rest := by
  simp only [offsetNumber]
  constructor
  · intro h
    split at h
    · simp at h
    · rename_i hGuard
      simp only [Bool.or_eq_true, decide_eq_true_eq, not_or, Nat.not_le] at hGuard
      obtain ⟨rfl, hRest⟩ : UInt32.ofNat (digitsValue (input.takeWhile Char.isDigit)) = offset ∧
          input.dropWhile Char.isDigit = rest := by simpa using h
      obtain ⟨hDigits, hSplit, hEnds⟩ := span_eq_iff.mp ⟨rfl, hRest⟩
      exact ⟨_, ⟨by simpa using hGuard.1, hDigits⟩, hGuard.2, rfl, hSplit, hEnds⟩
  · rintro ⟨digits, ⟨hNonempty, hDigits⟩, hRange, rfl, hSplit, hEnds⟩
    obtain ⟨hTake, hDrop⟩ := span_eq_iff.mpr ⟨hDigits, hSplit, hEnds⟩
    rw [hTake, hDrop, if_neg]
    simpa [hNonempty] using hRange

/-- Looking for a word tells whether the text begins with it, and reads it if it does. -/
theorem lookFor_eq_ok {word : String} {found : Bool} :
    (if word.toList.isPrefixOf input then
        (.ok (true, input.drop word.length) : Except Failure (Bool × List Char))
      else .ok (false, input)) = .ok (found, rest) ↔
      found = true ∧ input = word.toList ++ rest ∨
        found = false ∧ ¬ word.toList <+: input ∧ rest = input := by
  by_cases hPrefix : word.toList <+: input
  · obtain ⟨others, rfl⟩ := hPrefix
    rw [if_pos (List.isPrefixOf_iff_prefix.mpr (List.prefix_append ..)), ← String.length_toList,
      List.drop_left]
    simp [eq_comm]
  · have hNot (others : List Char) : input ≠ word.toList ++ others := by
      rintro rfl
      exact hPrefix (List.prefix_append ..)
    rw [if_neg (by rwa [List.isPrefixOf_iff_prefix])]
    simp [hPrefix, hNot, eq_comm]

/-- An offset that is announced has to be given. Where none is announced it is zero, and only the
blanks are taken. -/
theorem pluralOffset_eq_ok {offset : UInt32} :
    pluralOffset input = .ok (offset, rest) ↔
      ∃ before start, Blanks before ∧ input = before ++ start ∧ Ends isBlank start ∧
        DerivesOffset start offset rest ∧ Ends isBlank rest := by
  simp only [pluralOffset, bind_eq_ok, skipBlanks_eq_ok, lookFor_eq_ok]
  constructor
  · rintro ⟨_, start, ⟨before, hBefore, rfl, hStart⟩, _, next, hGiven, h⟩
    refine ⟨before, start, hBefore, rfl, hStart, ?_⟩
    rcases hGiven with ⟨rfl, rfl⟩ | ⟨rfl, hAbsent, rfl⟩
    · simp only [if_true, bind_eq_ok, skipBlanks_eq_ok, offsetNumber_eq_ok, pure_eq_ok] at h
      obtain ⟨_, _, ⟨inner, hInner, rfl, _⟩, _, _, ⟨digits, hDigits, hRange, rfl, rfl, hEnd⟩,
        _, _, ⟨after, hAfter, rfl, hRest⟩, rfl, rfl⟩ := h
      exact ⟨.given hInner hDigits hRange hEnd hAfter, hRest⟩
    · obtain ⟨rfl, rfl⟩ := pure_eq_ok.mp h
      exact ⟨.absent hAbsent, hStart⟩
  · rintro ⟨before, start, hBefore, rfl, hStart, hOffset, hRest⟩
    refine ⟨(), start, ⟨before, hBefore, rfl, hStart⟩, ?_⟩
    cases hOffset with
    | absent hAbsent =>
        exact ⟨false, rest, Or.inr ⟨rfl, hAbsent, rfl⟩, pure_eq_ok.mpr ⟨rfl, rfl⟩⟩
    | @given inner digits after _ hInner hDigits hRange hEnd hAfter =>
        have hDigit : Ends isBlank (digits ++ (after ++ rest)) := by
          obtain ⟨c, others, rfl⟩ := List.exists_cons_of_ne_nil hDigits.1
          exact ends_cons.mpr (isBlank_of_isDigit c (hDigits.2 c (List.mem_cons_self ..)))
        refine ⟨true, _, Or.inl ⟨rfl, rfl⟩, ?_⟩
        simp only [if_true, bind_eq_ok, skipBlanks_eq_ok, offsetNumber_eq_ok, pure_eq_ok]
        exact ⟨(), _, ⟨inner, hInner, rfl, hDigit⟩, _, _,
          ⟨digits, hDigits, hRange, rfl, rfl, hEnd⟩, (), rest, ⟨after, hAfter, rfl, hRest⟩, rfl, rfl⟩

/-- A selector may be read in front of anything that ends it, unless a closing brace or a comma
does. Blanks in front belong to the branches and not to it. -/
theorem selector_eq_ok_any {name : String} :
    selector input = .ok (name, rest) ↔
      IsName isSelectorChar name ∧ ∃ between, Blanks between ∧
        input = name.toList ++ (between ++ rest) ∧ Ends isBlank rest ∧
        Ends isSelectorChar (between ++ rest) ∧ (between ++ rest).head? ≠ some '\x7d' ∧
        (between ++ rest).head? ≠ some ',' := by
  simp only [selector, bind_eq_ok, charsWhile_eq_ok, peek_eq_ok, Bool.or_eq_true,
    decide_eq_true_eq]
  constructor
  · rintro ⟨chars, _, ⟨hChars, rfl, hEnds⟩, _, _, ⟨rfl, rfl⟩, h⟩
    split at h
    · simp [fail_eq_ok] at h
    · rename_i hClose
      split at h
      · simp [fail_eq_ok] at h
      · rename_i hNonempty
        simp only [bind_eq_ok, skipBlanks_eq_ok, pure_eq_ok] at h
        obtain ⟨_, _, ⟨between, hBetween, rfl, hRest⟩, rfl, rfl⟩ := h
        rw [not_or] at hClose
        exact ⟨isName_ofList.mpr ⟨by simpa using hNonempty, hChars⟩, between, hBetween, by simp,
          hRest, hEnds, hClose⟩
  · rintro ⟨hName, between, hBetween, rfl, hRest, hEnds, hClose⟩
    refine ⟨name.toList, _, ⟨hName.2, rfl, hEnds⟩, _, _, ⟨rfl, rfl⟩, ?_⟩
    rw [if_neg (not_or.mpr hClose), if_neg (by simpa using hName.1)]
    simp only [bind_eq_ok, skipBlanks_eq_ok, pure_eq_ok]
    exact ⟨(), rest, ⟨between, hBetween, rfl, hRest⟩, by simp, rfl⟩

/-- In front of the brace of its message a selector is read exactly where it stands with blanks
behind it. -/
theorem selector_eq_ok {name : String} :
    selector input = .ok (name, '\x7b' :: rest) ↔
      IsName isSelectorChar name ∧
        ∃ between, Blanks between ∧ input = name.toList ++ (between ++ '\x7b' :: rest) := by
  rw [selector_eq_ok_any]
  refine and_congr_right fun hName => exists_congr fun between => and_congr_right fun hBetween => ?_
  refine and_iff_left ⟨ends_cons.mpr (by decide), ?_, ?_, ?_⟩
  · exact hBetween.ends_append isBlank_of_isSelectorChar (by decide)
  · exact hBetween.head_append_ne (by decide) (by decide)
  · exact hBetween.head_append_ne (by decide) (by decide)

end Reader

end LocaleMessage.Pattern
