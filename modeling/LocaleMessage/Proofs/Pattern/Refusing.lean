import LocaleMessage.Proofs.Pattern.Failure
import LocaleMessage.Proofs.Pattern.Refusal

/-! The readers fail exactly as patterns are refused: what fails has a refusal, and what is refused
fails, with a bound that is never used up. -/
namespace LocaleMessage.Pattern

open Reader

variable {scope : Scope} {bound : Nat} {input rest : List Char} {failure : Failure}

/-- One step at which reading a message fails: a closing brace at the top, an argument that fails,
or what stands behind one. Text itself never fails. -/
theorem readMessage_eq_error :
    readMessage (bound + 1) scope input = .error failure ↔
      ∃ text next, MaximalText scope input text next ∧
        ((scope = .root ∧ next.head? = some '\x7d') ∧ failure = ⟨.unexpected, next⟩ ∨
          (next ≠ [] ∧ next.head? ≠ some '\x7d') ∧
            (readArgument bound scope next = .error failure ∨
              ∃ element middle, readArgument bound scope next = .ok (element, middle) ∧
                readMessage bound scope middle = .error failure)) := by
  rw [readMessage]
  simp only [bind_eq_error, text_eq_error, peek_eq_error, false_or, text_eq_ok, peek_eq_ok]
  constructor
  · rintro ⟨text, next, hText, _, _, ⟨rfl, rfl⟩, h⟩
    refine ⟨text, _, hText, ?_⟩
    split at h
    · simp [pure_eq_error] at h
    · rename_i hEnd
      split at h
      · rename_i hBrace
        split at h
        · rename_i hScope
          exact Or.inl ⟨⟨hScope, hBrace⟩, fail_eq_error.mp h⟩
        · simp [pure_eq_error] at h
      · rename_i hBrace
        simp only [bind_eq_error, pure_eq_error, and_false, exists_false, or_false] at h
        exact Or.inr ⟨⟨by simpa using hEnd, hBrace⟩, h⟩
  · rintro ⟨text, next, hText, h⟩
    refine ⟨text, next, hText, _, _, ⟨rfl, rfl⟩, ?_⟩
    rcases h with ⟨⟨hScope, hBrace⟩, rfl⟩ | ⟨⟨hEnd, hBrace⟩, h⟩
    · rw [if_neg (by simp [hBrace]), if_pos hBrace, if_pos hScope]
      exact fail_eq_error.mpr rfl
    · rw [if_neg (by simpa using hEnd), if_neg hBrace]
      simpa only [bind_eq_error, pure_eq_error, and_false, exists_false, or_false] using h

/-- Where reading an argument fails behind its brace, in the order in which its parts are read. A
closing brace behind the name is no failure. -/
theorem readArgument_eq_error :
    readArgument (bound + 1) scope ('\x7b' :: input) = .error failure ↔
      argumentId input = .error failure ∨
        ∃ id next, argumentId input = .ok (id, next) ∧ next.head? ≠ some '\x7d' ∧
          (next.head? ≠ some ',' ∧ failure = ⟨.expected (.token ','), next⟩ ∨
            ∃ start, next = ',' :: start ∧ (keyword start = .error failure ∨
              ∃ k middle, keyword start = .ok (k, middle) ∧
                match k with
                | .format f => formatted id f middle = .error failure
                | .clause clause =>
                  readClause (fun scope => readBranches bound scope []) scope id clause middle =
                    .error failure)) := by
  rw [readArgument]
  simp only [bind_eq_error, accept_eq_error, false_or, accept_eq_ok]
  constructor
  · rintro ⟨_, _, ⟨rfl, hPound⟩ | ⟨rfl, _, rfl⟩, h⟩
    · simp at hPound
    · simp only [Bool.false_eq_true, if_false, bind_eq_error, accept_eq_error, false_or,
        accept_eq_ok] at h
      obtain ⟨_, _, ⟨rfl, hBrace⟩ | ⟨rfl, hBrace, _⟩, h⟩ := h
      · obtain rfl : input = _ := (List.cons.inj hBrace).2
        refine h.imp_right ?_
        rintro ⟨id, next, hId, _, _, ⟨rfl, rfl⟩ | ⟨rfl, hHead, rfl⟩, h⟩
        · simp [pure_eq_error] at h
        · simp only [Bool.false_eq_true, if_false, bind_eq_error, expect_eq_error, expect_eq_ok]
            at h
          refine ⟨id, _, hId, hHead, h.imp_right ?_⟩
          rintro ⟨_, start, rfl, hWord⟩
          refine ⟨start, rfl, hWord.imp_right ?_⟩
          rintro ⟨k, middle, hKeyword, hBody⟩
          refine ⟨k, middle, hKeyword, ?_⟩
          cases k <;> exact hBody
      · simp at hBrace
  · intro h
    refine ⟨false, _, Or.inr ⟨rfl, by simp, rfl⟩, ?_⟩
    simp only [Bool.false_eq_true, if_false, bind_eq_error, accept_eq_error, false_or, accept_eq_ok]
    refine ⟨true, input, Or.inl ⟨rfl, rfl⟩, h.imp_right ?_⟩
    rintro ⟨id, next, hId, hHead, h⟩
    refine ⟨id, next, hId, false, next, Or.inr ⟨rfl, hHead, rfl⟩, ?_⟩
    simp only [Bool.false_eq_true, if_false, bind_eq_error, expect_eq_error, expect_eq_ok]
    refine h.imp_right ?_
    rintro ⟨start, rfl, hWord⟩
    refine ⟨(), start, rfl, hWord.imp_right ?_⟩
    rintro ⟨k, middle, hKeyword, hBody⟩
    refine ⟨k, middle, hKeyword, ?_⟩
    cases k <;> exact hBody

/-- Behind its branches a clause is refused if a branch or its brace is missing. A missing branch is
told before a missing brace. -/
theorem closeClause_eq_error {id : String} {offset : UInt32} {branches : List (Branch Message)}
    {clause : Clause} (hRest : rest = [] ∨ rest.head? = some '\x7d') :
    closeClause id offset (Branch.merge branches) clause rest = .error failure ↔
      ∃ problem, Unfinished clause branches rest problem ∧ failure = ⟨problem, rest⟩ := by
  have hOther : (∃ branch ∈ Branch.merge branches, branch.selector = "other") ↔
      ∃ branch ∈ branches, branch.selector = "other" := Branch.exists_mem_merge branches "other"
  rw [closeClause]
  constructor
  · intro h
    split at h
    · rename_i hNone
      obtain rfl := Branch.merge_eq_nil_iff.mp (List.isEmpty_iff.mp hNone)
      exact ⟨_, .empty, fail_eq_error.mp h⟩
    · rename_i hSome
      split at h
      · rename_i hMissing
        refine ⟨_, .missingOther ?_ ?_, fail_eq_error.mp h⟩
        · rintro rfl
          exact hSome rfl
        · simpa using mt hOther.mpr (by simpa using hMissing)
      · rename_i hPresent
        simp only [bind_eq_error, expect_eq_error, pure_eq_error, and_false, exists_false,
          or_false] at h
        obtain ⟨hBrace, rfl⟩ := h
        obtain rfl := hRest.resolve_right hBrace
        exact ⟨_, .unclosed (hOther.mp (by simpa using hPresent)), rfl⟩
  · rintro ⟨problem, hProblem, rfl⟩
    cases hProblem with
    | empty =>
        rw [if_pos (by rfl)]
        exact fail_eq_error.mpr rfl
    | missingOther hNonempty hMissing =>
        have hSome : Branch.merge branches ≠ [] := mt Branch.merge_eq_nil_iff.mp hNonempty
        rw [if_neg (by simpa using hSome), if_pos ?_]
        · exact fail_eq_error.mpr rfl
        · simpa using mt hOther.mp (by simpa using hMissing)
    | unclosed hPresent =>
        have hKept := hOther.mpr hPresent
        have hSome : Branch.merge branches ≠ [] := by
          obtain ⟨branch, hMem, _⟩ := hKept
          exact List.ne_nil_of_mem hMem
        rw [if_neg (by simpa using hSome), if_neg (by simpa using hKept)]
        exact bind_eq_error.mpr (Or.inl (expect_eq_error.mpr ⟨by simp, rfl⟩))

/-- Where reading a clause fails. A closing brace instead of the comma has a failure of its own,
which tells what clause is without branches. -/
theorem readClause_eq_error {branches : Scope → Reader (List (Branch Message))} {id : String}
    {clause : Clause} :
    readClause branches scope id clause input = .error failure ↔
      input.head? = some '\x7d' ∧ failure = ⟨.expected (.branches clause), input⟩ ∨
        input.head? ≠ some '\x7d' ∧
          (input.head? ≠ some ',' ∧ failure = ⟨.expected (.token ','), input⟩ ∨
            ∃ start, input = ',' :: start ∧
              (clause ≠ .select ∧ pluralOffset start = .error failure ∨
                ∃ offset next,
                  (if clause = .select then offset = 0 ∧ next = start
                    else pluralOffset start = .ok (offset, next)) ∧
                  (branches (clause.branchScope scope) next = .error failure ∨
                    ∃ options rest, branches (clause.branchScope scope) next = .ok (options, rest) ∧
                      closeClause id offset options clause rest = .error failure))) := by
  simp only [readClause, bind_eq_error, peek_eq_error, false_or, peek_eq_ok]
  constructor
  · rintro ⟨_, _, ⟨rfl, rfl⟩, h⟩
    split at h
    · rename_i hBrace
      exact Or.inl ⟨hBrace, fail_eq_error.mp h⟩
    · rename_i hBrace
      simp only [bind_eq_error, expect_eq_error, expect_eq_ok, exists_const] at h
      refine Or.inr ⟨hBrace, h.imp_right ?_⟩
      rintro ⟨start, rfl, hBody⟩
      refine ⟨start, rfl, ?_⟩
      by_cases hClause : clause = .select
      · simpa [Clause.branchScope, hClause, bind_eq_error, pure_eq_error, pure_eq_ok] using hBody
      · simpa [Clause.branchScope, hClause, bind_eq_error] using hBody
  · rintro (⟨hBrace, rfl⟩ | ⟨hBrace, h⟩)
    · refine ⟨_, _, ⟨rfl, rfl⟩, ?_⟩
      rw [if_pos hBrace]
      exact fail_eq_error.mpr rfl
    · refine ⟨_, _, ⟨rfl, rfl⟩, ?_⟩
      rw [if_neg hBrace]
      simp only [bind_eq_error, expect_eq_error, expect_eq_ok, exists_const]
      refine h.imp_right ?_
      rintro ⟨start, rfl, hBody⟩
      refine ⟨start, rfl, ?_⟩
      by_cases hClause : clause = .select
      · simpa [Clause.branchScope, hClause, bind_eq_error, pure_eq_error, pure_eq_ok] using hBody
      · simpa [Clause.branchScope, hClause, bind_eq_error] using hBody

/-- One step at which reading branches fails: the selector, the brace behind it, the message or its
closing brace. Which branches have been read before plays no part. -/
theorem readBranches_eq_error {read : List (Branch Message)} :
    readBranches (bound + 1) scope read input = .error failure ↔
      ∃ run next, (Blanks run ∧ input = run ++ next ∧ Ends isBlank next) ∧
        (next ≠ [] ∧ next.head? ≠ some '\x7d') ∧
        (selector next = .error failure ∨
          ∃ name middle, selector next = .ok (name, middle) ∧
            (middle.head? ≠ some '\x7b' ∧ failure = ⟨.expected (.token '\x7b'), middle⟩ ∨
              ∃ start, middle = '\x7b' :: start ∧
                (readMessage bound scope start = .error failure ∨
                  ∃ message after, readMessage bound scope start = .ok (message, after) ∧
                    (after.head? ≠ some '\x7d' ∧ failure = ⟨.expected (.token '\x7d'), after⟩ ∨
                      ∃ rest, after = '\x7d' :: rest ∧
                        readBranches bound scope (Branch.put ⟨name, message⟩ read) rest =
                          .error failure)))) := by
  rw [readBranches]
  simp only [bind_eq_error, skipBlanks_eq_error, peek_eq_error, false_or, skipBlanks_eq_ok,
    peek_eq_ok]
  constructor
  · rintro ⟨_, next, ⟨run, hRun⟩, _, _, ⟨rfl, rfl⟩, h⟩
    refine ⟨run, _, hRun, ?_⟩
    split at h
    · simp [pure_eq_error] at h
    · rename_i hEnd
      refine ⟨by simpa using hEnd, ?_⟩
      simpa only [bind_eq_error, expect_eq_error, expect_eq_ok, exists_const] using h
  · rintro ⟨run, next, hRun, hEnd, h⟩
    refine ⟨(), next, ⟨run, hRun⟩, _, _, ⟨rfl, rfl⟩, ?_⟩
    rw [if_neg (by simpa using hEnd)]
    simpa only [bind_eq_error, expect_eq_error, expect_eq_ok, exists_const] using h

theorem readBranches_ends {read options : List (Branch Message)}
    (h : readBranches bound scope read input = .ok (options, rest)) :
    rest = [] ∨ rest.head? = some '\x7d' := by
  induction bound generalizing read input with
  | zero => simp [readBranches, fail] at h
  | succ bound ih =>
      obtain ⟨run, next, _, ⟨hEnd, -, rfl⟩ | ⟨_, _, _, _, _, _, _, hOthers⟩⟩ :=
        readBranches_eq_ok.mp h
      · exact hEnd
      · exact ih hOthers

/-- What is read before the branches is their opening, and blanks that are left to them belong to
it where there is no offset. -/
theorem exists_opening {clause : Clause} {offset : UInt32} {start next run middle : List Char}
    (hStart : if clause = .select then offset = 0 ∧ next = start
      else pluralOffset start = .ok (offset, next))
    (hRun : Blanks run) (hNext : next = run ++ middle) :
    ∃ before input, Blanks before ∧ start = before ++ input ∧
      DerivesOpening clause input offset middle := by
  split at hStart
  · rename_i hClause
    obtain ⟨rfl, rfl⟩ := hStart
    subst hClause
    exact ⟨run, middle, hRun, hNext, .select⟩
  · rename_i hClause
    obtain ⟨before, input, hBefore, rfl, _, hOffset, hEnds⟩ := pluralOffset_eq_ok.mp hStart
    subst hNext
    obtain rfl := hRun.eq_nil_of_ends hEnds
    exact ⟨before, input, hBefore, rfl, .plural hClause hOffset⟩

theorem opening_length_le {clause : Clause} {offset : UInt32} {start next : List Char}
    (hStart : if clause = .select then offset = 0 ∧ next = start
      else pluralOffset start = .ok (offset, next)) : next.length ≤ start.length := by
  split at hStart
  · exact Nat.le_of_eq (congrArg List.length hStart.2)
  · obtain ⟨before, input, _, rfl, _, hOffset, _⟩ := pluralOffset_eq_ok.mp hStart
    have hLength := hOffset.length_le
    rw [List.length_append]
    omega

section
variable {id : String} {head start middle : List Char} (hId : IsName isIdChar id)
  (hHead : Padded id head)
include hId hHead

theorem refusesArgument_of_format {f : Format} (hWord : keyword start = .ok (.format f, middle))
    (h : formatted id f middle = .error failure) :
    RefusesArgument scope ('\x7b' :: (head ++ ',' :: start)) failure := by
  obtain ⟨before, after, hBefore, hAfter, rfl, hLeading, hNext⟩ := keyword_eq_ok_any.mp hWord
  have hStart : ArgumentHead id (.format f) _ :=
    .mk hId hHead (.mk hBefore hAfter)
  obtain ⟨hClose, ⟨hComma, rfl⟩ | ⟨start, rfl, hStyle | ⟨style, next, hStyle, hClose', rfl⟩⟩⟩ :=
    formatted_eq_error.mp h
  · exact .afterKeyword hId hHead hBefore hAfter hLeading ⟨hNext, by simp [hComma, hClose]⟩
  · obtain ⟨inner, rest, hInner, rfl, hRest, hStops, rfl⟩ := styleName_eq_error.mp hStyle
    simpa using RefusesArgument.noStyle hStart hInner hRest hStops
  · obtain ⟨inner, text, value, behind, hInner, rfl, hText, hValue, hBehind, hRest, rfl⟩ :=
      styleName_eq_ok_any.mp hStyle
    simpa using RefusesArgument.afterStyle hStart hInner hText hValue hBehind
      ⟨hRest, by simp [hClose']⟩

/-- What fails in a clause is a refusal of the argument, if what fails in its branches is one of
theirs. This is the step that the readers of branches and of arguments need of each other. -/
theorem refusesArgument_of_clause {clause : Clause} (hBound : start.length < bound)
    (hWord : keyword start = .ok (.clause clause, middle))
    (h : readClause (fun scope => readBranches bound scope []) scope id clause middle =
      .error failure)
    (hBranches : ∀ next : List Char, next.length < bound →
      readBranches bound (clause.branchScope scope) [] next = .error failure →
        ∃ run middle, Blanks run ∧ next = run ++ middle ∧
          RefusesBranches (clause.branchScope scope) middle failure) :
    RefusesArgument scope ('\x7b' :: (head ++ ',' :: start)) failure := by
  obtain ⟨before, after, hBefore, hAfter, rfl, hLeading, hNext⟩ := keyword_eq_ok_any.mp hWord
  have hStart : ArgumentHead id (.clause clause) _ := .mk hId hHead (.mk hBefore hAfter)
  rcases readClause_eq_error.mp h with ⟨hClose, rfl⟩ | ⟨hClose, ⟨hComma, rfl⟩ | ⟨start, rfl, hBody⟩⟩
  · obtain ⟨rest, rfl⟩ := List.head?_eq_some_iff.mp hClose
    simpa using RefusesArgument.noBranches hStart
  · exact .afterKeyword hId hHead hBefore hAfter hLeading ⟨hNext, by simp [hComma, hClose]⟩
  · rcases hBody with ⟨hClause, hOffset⟩ | ⟨offset, next, hOpening, hRest⟩
    · obtain ⟨outer, inner, rest, hOuter, hInner, rfl, hRest, hNumber, rfl⟩ :=
        pluralOffset_eq_error.mp hOffset
      simpa using RefusesArgument.noOffset hStart hClause hOuter hInner hRest hNumber
    · rcases hRest with hRefused | ⟨options, rest, hOptions, hClosing⟩
      · have hLength := opening_length_le hOpening
        simp only [List.length_append, List.length_cons] at hBound
        obtain ⟨run, middle, hRun, hSplit, hMiddle⟩ := hBranches next (by omega) hRefused
        obtain ⟨outer, input, hOuter, rfl, hInput⟩ := exists_opening hOpening hRun hSplit
        simpa using RefusesArgument.branches hStart hOuter hInput hMiddle
      · obtain ⟨run, middle, branches, hRun, hSplit, hMiddle, rfl⟩ :=
          derivesBranches_of_read bound (branchScope_ne_style scope clause) hOptions
        obtain ⟨outer, input, hOuter, rfl, hInput⟩ := exists_opening hOpening hRun hSplit
        have hEnd := readBranches_ends hOptions
        obtain ⟨problem, hProblem, rfl⟩ := (closeClause_eq_error hEnd).mp hClosing
        simpa using RefusesArgument.unfinished hStart hOuter hInput hMiddle hEnd hProblem

end

/-- Only the end of the pattern ends a name without being told of. Every other character is in the
class or has been excluded by name. -/
theorem eq_nil_of_ends_isIdChar (hChar : Ends isIdChar rest) (hBlank : Ends isBlank rest)
    (hOthers : ∀ c ∈ ['\x7b', '\x7d', ',', '#'], rest.head? ≠ some c) : rest = [] := by
  cases rest with
  | nil => rfl
  | cons c others =>
      have hNo := ends_cons.mp hChar
      simp [isIdChar, ends_cons.mp hBlank] at hNo
      simp at hOthers
      tauto

theorem eq_nil_of_ends_isSelectorChar (hChar : Ends isSelectorChar rest)
    (hBlank : Ends isBlank rest)
    (hOthers : ∀ c ∈ ['\x7b', '\x7d', ','], rest.head? ≠ some c) : rest = [] := by
  cases rest with
  | nil => rfl
  | cons c others =>
      have hNo := ends_cons.mp hChar
      simp [isSelectorChar, ends_cons.mp hBlank] at hNo
      simp at hOthers
      tauto

theorem refusesBranches_of_selector (hNonempty : input ≠ []) (hBrace : input.head? ≠ some '\x7d')
    (hBlank : Ends isBlank input) (h : selector input = .error failure) :
    RefusesBranches scope input failure := by
  obtain ⟨name, rest, hName, rfl, ⟨hClose, rfl⟩ | ⟨⟨hClose, hComma⟩, rfl, hEnds, rfl⟩⟩ :=
    selector_eq_error.mp h
  · obtain ⟨name, rfl⟩ : ∃ word : String, name = word.toList := ⟨String.ofList name, by simp⟩
    by_cases hEmpty : name = ""
    · subst hEmpty
      exact .comma .nil (hClose.resolve_left hBrace)
    · exact .brokenSelector .nil ⟨hEmpty, hName⟩ hClose
  · refine .noSelector .nil ?_
    by_contra hOpen
    exact hNonempty (eq_nil_of_ends_isSelectorChar hEnds hBlank (by simp [hOpen, hClose, hComma]))

mutual

/-- What fails as a message is refused by the grammar of failures, with the same failure. The three
statements go by induction on the bound, which has to exceed the length so that the bound itself is
not what fails. -/
theorem refusesMessage_of_read : (bound : Nat) → {scope : Scope} → {input : List Char} →
    {failure : Failure} → scope ≠ .style → input.length < bound →
      readMessage bound scope input = .error failure → RefusesMessage scope input failure
  | 0, _, _, _, _, hBound, _ => absurd hBound (Nat.not_lt_zero _)
  | bound + 1, scope, input, failure, hScope, hBound, hRead => by
      obtain ⟨text, next, hText, h⟩ := readMessage_eq_error.mp hRead
      have hLength := hText.length_le
      rcases h with ⟨⟨rfl, hBrace⟩, rfl⟩ | ⟨⟨hNonempty, hBrace⟩, h⟩
      · obtain ⟨rest, rfl⟩ := List.head?_eq_some_iff.mp hBrace
        exact .unopened .nil hText
      · have hStops : StopsText scope next := (maximalText_iff.mp hText).2
        rcases h with hArgument | ⟨element, middle, hArgument, hOthers⟩
        · have hRefused := refusesArgument_of_read bound hScope hStops hNonempty hBrace (by omega)
            hArgument
          exact .argument .nil hText hRefused
        · have hElement := derivesArgument_of_read bound hScope hStops hNonempty hBrace hArgument
          have hShort := hElement.length_lt
          exact .append (.cons hText hElement .nil)
            (refusesMessage_of_read bound hScope (by omega) hOthers)

/-- What fails as an argument is refused. As for what is derived, it is only called for where text
has stopped. -/
theorem refusesArgument_of_read : (bound : Nat) → {scope : Scope} → {input : List Char} →
    {failure : Failure} → scope ≠ .style → StopsText scope input → input ≠ [] →
      input.head? ≠ some '\x7d' → input.length ≤ bound →
      readArgument bound scope input = .error failure → RefusesArgument scope input failure
  | 0, _, input, _, _, _, hNonempty, _, hBound, _ =>
      absurd (List.length_pos_iff.mpr hNonempty) (Nat.not_lt.mpr hBound)
  | bound + 1, scope, input, failure, hScope, hStops, hNonempty, hBrace, hBound, hRead => by
      obtain ⟨c, others, rfl⟩ := List.exists_cons_of_ne_nil hNonempty
      rcases argument_head hScope (hStops c rfl) (by simpa using hBrace) with rfl | ⟨rfl, rfl⟩
      · rcases readArgument_eq_error.mp hRead with hName | ⟨id, next, hName, hClose, h⟩
        · obtain ⟨before, name, rest, hBefore, hChars, rfl, rfl, ⟨rfl, hBlank, hChar⟩ | hBreak⟩ :=
            argumentId_eq_error.mp hName
          · exact .noId hBefore hBlank hChar
          · exact .brokenId hBefore hChars hBreak
        · obtain ⟨hId, before, after, hBefore, hAfter, rfl, hBlank, hEnds, hOpen, hSign⟩ :=
            argumentId_eq_ok_any.mp hName
          rcases h with ⟨hComma, rfl⟩ | ⟨start, rfl, h⟩
          · refine .afterId hId hBefore hAfter ?_ ⟨hBlank, by simp [hComma, hClose]⟩
            rintro rfl
            rw [List.nil_append] at hEnds hOpen hSign
            exact eq_nil_of_ends_isIdChar hEnds hBlank (by simp [hOpen, hSign, hComma, hClose])
          · have hHead : Padded id (before ++ id.toList ++ after) := .mk hBefore hAfter
            simp only [List.length_cons, List.length_append] at hBound
            suffices hAll : RefusesArgument scope
                ('\x7b' :: (before ++ id.toList ++ after ++ ',' :: start)) failure by
              simpa using hAll
            rcases h with hWord | ⟨k, middle, hWord, hBody⟩
            · obtain ⟨inner, rest, hInner, rfl, hRest, hNone, rfl⟩ := keyword_eq_error.mp hWord
              exact .noKeyword hId hHead hInner hRest hNone
            · cases k with
              | format f => exact refusesArgument_of_format hId hHead hWord hBody
              | clause clause =>
                  have hBound' : start.length < bound := by omega
                  refine refusesArgument_of_clause hId hHead hBound' hWord hBody ?_
                  intro next hLength hRefused
                  exact refusesBranches_of_read bound (branchScope_ne_style scope clause) hLength
                    hRefused
      · rw [readArgument_pound] at hRead
        cases hRead

/-- What fails as branches is refused behind the blanks in front, whatever has been read before. -/
theorem refusesBranches_of_read : (bound : Nat) → {scope : Scope} → {input : List Char} →
    {read : List (Branch Message)} → {failure : Failure} → scope ≠ .style →
      input.length < bound → readBranches bound scope read input = .error failure →
      ∃ run middle, Blanks run ∧ input = run ++ middle ∧ RefusesBranches scope middle failure
  | 0, _, _, _, _, _, hBound, _ => absurd hBound (Nat.not_lt_zero _)
  | bound + 1, scope, input, read, failure, hScope, hBound, hRead => by
      obtain ⟨run, next, ⟨hRun, rfl, hBlank⟩, ⟨hNonempty, hBrace⟩, h⟩ :=
        readBranches_eq_error.mp hRead
      rcases h with hSelector | ⟨name, middle, hSelector, h⟩
      · exact ⟨run, next, hRun, rfl, refusesBranches_of_selector hNonempty hBrace hBlank hSelector⟩
      · obtain ⟨hName, between, hBetween, rfl, hRest, hEnds, hClose, hComma⟩ :=
          selector_eq_ok_any.mp hSelector
        simp only [List.length_append] at hBound
        rcases h with ⟨hOpen, rfl⟩ | ⟨start, rfl, h⟩
        · refine ⟨run, _, hRun, rfl, .afterSelector .nil hName hBetween ?_ ⟨hRest, by simpa using hOpen⟩⟩
          rintro rfl
          rw [List.nil_append] at hEnds hClose hComma
          exact eq_nil_of_ends_isSelectorChar hEnds hRest (by simp [hOpen, hClose, hComma])
        · rw [List.length_cons] at hBound
          rcases h with hMessage | ⟨message, after, hMessage, h⟩
          · have hRefused := refusesMessage_of_read bound hScope (by omega) hMessage
            exact ⟨run, _, hRun, rfl, .message .nil hName hBetween hRefused⟩
          · obtain ⟨hDerives, hEnd⟩ := derivesMessage_of_read bound hScope hMessage
            rcases h with ⟨hOpen, rfl⟩ | ⟨rest, rfl, hOthers⟩
            · obtain rfl : after = [] := hEnd.resolve_right fun h => hOpen h.2
              exact ⟨run, _, hRun, rfl, .unclosed .nil hName hBetween hDerives⟩
            · have hLength := hDerives.length_le
              rw [List.length_cons] at hLength
              obtain ⟨behind, next, hBehind, rfl, hRefused⟩ :=
                refusesBranches_of_read bound hScope (by omega) hOthers
              exact ⟨run, _, hRun, rfl, hRefused.cons hName hBetween hDerives hBehind⟩

end

/-- Behind arguments a message fails as if it began there. The failure itself is kept, as it does
not say how far it is from the beginning. -/
theorem DerivesArguments.readMessage_eq_error {middle : List Char} {elements : Message}
    (h : DerivesArguments scope input elements middle)
    (hMiddle : ∀ bound, middle.length < bound → readMessage bound scope middle = .error failure) :
    ∀ bound, input.length < bound → readMessage bound scope input = .error failure := by
  induction h with
  | nil => exact hMiddle
  | cons hText hArgument _ ih =>
      intro bound hBound
      have hMiddleLength := hText.length_le
      have hNextLength := hArgument.length_lt
      obtain ⟨bound, rfl⟩ :=
    Nat.exists_eq_add_one_of_ne_zero (Nat.ne_of_gt (Nat.zero_lt_of_lt hBound))
      have hElement := read_of_derivesArgument bound (by omega) hArgument
      refine Pattern.readMessage_eq_error.mpr ⟨_, _, hText, Or.inr ⟨?_, Or.inr
        ⟨_, _, hElement, ih hMiddle bound (by omega)⟩⟩⟩
      obtain ⟨others, rfl | rfl⟩ := hArgument.head <;> simp

/-- A branch is read, and then the others. The blanks in front are part of the step, as the reader
skips them before each selector. -/
theorem readBranches_branch {run next start after : List Char} {name : String} {message : Message}
    {read : List (Branch Message)} (hRun : Blanks run) (hBlank : Ends isBlank next)
    (hNext : next ≠ [] ∧ next.head? ≠ some '\x7d')
    (hSelector : selector next = .ok (name, '\x7b' :: start))
    (hMessage : readMessage bound scope start = .ok (message, '\x7d' :: after)) :
    readBranches (bound + 1) scope read (run ++ next) =
      readBranches bound scope (Branch.put ⟨name, message⟩ read) after := by
  cases hOthers : readBranches bound scope (Branch.put ⟨name, message⟩ read) after with
  | ok others =>
      obtain ⟨options, rest⟩ := others
      exact readBranches_eq_ok.mpr ⟨run, next, ⟨hRun, rfl, hBlank⟩, Or.inr ⟨hNext, name, start,
        message, after, hSelector, hMessage, hOthers⟩⟩
  | error failure =>
      exact readBranches_eq_error.mpr ⟨run, next, ⟨hRun, rfl, hBlank⟩, hNext, Or.inr ⟨name, _,
        hSelector, Or.inr ⟨start, rfl, Or.inr ⟨message, _, hMessage, Or.inr ⟨after, rfl, hOthers⟩⟩⟩⟩⟩

/-- Behind branches the reader of branches goes on with all that have been read. -/
theorem DerivesBranches.readBranches_eq {middle : List Char}
    (result : List (Branch Message) → Except Failure (List (Branch Message) × List Char))
    (hScope : scope ≠ .root)
    (hMiddle : ∀ bound run read, Blanks run → (run ++ middle).length < bound →
      readBranches bound scope read (run ++ middle) = result read) :
    {input : List Char} → {branches : List (Branch Message)} →
      DerivesBranches scope input branches middle → (bound : Nat) → (run : List Char) →
      (read : List (Branch Message)) → Blanks run → (run ++ input).length < bound →
      readBranches bound scope read (run ++ input) =
        result (branches.foldl (fun kept branch => branch.put kept) read)
  | _, _, .nil, bound, run, read, hRun, hBound => hMiddle bound run read hRun hBound
  | _, _, .cons .., 0, _, _, _, hBound => absurd hBound (Nat.not_lt_zero _)
  | _, _, .cons hName hBetween hMessage hAfter hOthers, bound + 1, run, read, hRun, hBound => by
      have hLength := hMessage.length_le
      simp only [List.length_cons, List.length_append] at hBound hLength
      rw [readBranches_branch hRun (hName.ends_append isBlank_of_isSelectorChar _)
        (selector_ne_end hName _) (selector_eq_ok.mpr ⟨hName, _, hBetween, rfl⟩)
        (read_of_derivesMessage bound (by omega) hMessage (Or.inr ⟨hScope, rfl⟩))]
      exact hOthers.readBranches_eq result hScope hMiddle bound _ _ hAfter
        (by rw [List.length_append]; omega)

/-- Behind branches the reader of branches fails as if they began there. -/
theorem DerivesBranches.readBranches_eq_error {branches : List (Branch Message)}
    {middle : List Char} (h : DerivesBranches scope input branches middle) (hScope : scope ≠ .root)
    (hMiddle : ∀ bound run read, Blanks run → (run ++ middle).length ≤ bound →
      readBranches (bound + 1) scope read (run ++ middle) = .error failure)
    (bound : Nat) (run : List Char) (read : List (Branch Message)) (hRun : Blanks run)
    (hBound : (run ++ input).length < bound) :
    readBranches bound scope read (run ++ input) = .error failure := by
  refine h.readBranches_eq (fun _ => .error failure) hScope
    (fun bound run read hRun hBound => ?_) bound run read hRun hBound
  obtain ⟨bound, rfl⟩ :=
    Nat.exists_eq_add_one_of_ne_zero (Nat.ne_of_gt (Nat.zero_lt_of_lt hBound))
  exact hMiddle bound run read hRun (Nat.le_of_lt_succ hBound)

/-- The opening of a clause is read, whether it has an offset or not. Blanks behind it may be left
over for the reader of branches. -/
theorem read_opening {clause : Clause} {offset : UInt32} {before middle : List Char}
    (h : DerivesOpening clause input offset middle) (hBefore : Blanks before)
    (hEnds : Ends isBlank middle) : ∃ run, Blanks run ∧
      (run ++ middle).length ≤ (before ++ input).length ∧
      if clause = .select then offset = 0 ∧ run ++ middle = before ++ input
        else pluralOffset (before ++ input) = .ok (offset, run ++ middle) := by
  cases h with
  | plural hClause hOffset =>
      refine ⟨[], blanks_nil, ?_, ?_⟩
      · have hLength := hOffset.length_le
        simp only [List.nil_append, List.length_append]
        omega
      · rw [if_neg hClause]
        exact pluralOffset_eq_ok.mpr ⟨before, input, hBefore, rfl, hOffset.ends hEnds, hOffset, hEnds⟩
  | select => exact ⟨before, hBefore, Nat.le_refl _, rfl, rfl⟩

/-- What fails behind the name of an argument and a comma fails behind them in the argument, whether
it is the keyword or what follows it. -/
theorem readArgument_of_comma {id : String} {head start : List Char} (hId : IsName isIdChar id)
    (hHead : Padded id head)
    (h : keyword start = .error failure ∨ ∃ k middle, keyword start = .ok (k, middle) ∧
      match k with
      | .format f => formatted id f middle = .error failure
      | .clause clause =>
        readClause (fun scope => readBranches bound scope []) scope id clause middle =
          .error failure) :
    readArgument (bound + 1) scope ('\x7b' :: (head ++ ',' :: start)) = .error failure := by
  have hName : argumentId (head ++ ',' :: start) = .ok (id, ',' :: start) :=
    (argumentId_eq_ok (Or.inr rfl)).mpr ⟨hId, head, hHead, rfl⟩
  exact readArgument_eq_error.mpr (Or.inr ⟨id, _, hName, by simp, Or.inr ⟨start, rfl, h⟩⟩)

/-- What fails behind a keyword fails behind the head of its argument. Only a closing brace and a
comma are said to follow, for which every keyword is read. -/
theorem readArgument_of_head {id : String} {k : Keyword} {start middle : List Char}
    {c : Char} (hc : c = '\x7d' ∨ c = ',')
    (hBody : match k with
      | .format f => formatted id f (c :: middle) = .error failure
      | .clause clause =>
        readClause (fun scope => readBranches bound scope []) scope id clause (c :: middle) =
          .error failure)
    (hStart : ArgumentHead id k start) :
    readArgument (bound + 1) scope (start ++ c :: middle) = .error failure := by
  obtain @⟨head, written, hId, hHead, hKeyword⟩ := hStart
  have hWord : keyword (written ++ c :: middle) = .ok (k, c :: middle) :=
    (keyword_eq_ok hc).mpr ⟨written, hKeyword, rfl⟩
  simpa using readArgument_of_comma hId hHead (Or.inr ⟨k, _, hWord, hBody⟩)

theorem ArgumentHead.length_pos {id : String} {k : Keyword} {start : List Char}
    (h : ArgumentHead id k start) : 0 < start.length := by
  obtain ⟨_, _, _⟩ := h
  simp

/-- Behind blanks that only the end of the pattern follows without one, there is a blank or
nothing. -/
theorem Blanks.isBlank_of_end {run : List Char} {c : Char} (hRun : Blanks run)
    (hEnd : run = [] → rest = []) (hHead : (run ++ rest).head? = some c) : isBlank c = true := by
  cases run with
  | nil => simp [hEnd rfl] at hHead
  | cons d others =>
      obtain rfl : d = c := by simpa using hHead
      exact hRun d (by simp)

theorem Blanks.head_ne_of_end {run : List Char} {c : Char} (hRun : Blanks run)
    (hEnd : run = [] → rest = []) (hc : isBlank c = false) : (run ++ rest).head? ≠ some c := by
  intro hHead
  simp [hRun.isBlank_of_end hEnd hHead] at hc

theorem Blanks.ends_of_end {p : Char → Bool} {run : List Char} (hRun : Blanks run)
    (hEnd : run = [] → rest = []) (hClass : ∀ c, p c = true → isBlank c = false) :
    Ends p (run ++ rest) := by
  intro c hHead
  have hBlank := hRun.isBlank_of_end hEnd hHead
  cases hp : p c with
  | false => rfl
  | true => simp [hClass c hp] at hBlank

theorem ends_of_end {p : Char → Bool} (hEnd : rest = [] ∨ rest.head? = some '\x7d')
    (hBrace : p '\x7d' = false := by decide) : Ends p rest := by
  rcases hEnd with rfl | hHead
  · simp [Ends]
  · exact ends_of_head? hHead hBrace

/-- The reader of branches is done where the clause may be closed, and hands over what it
was given. -/
theorem readBranches_end {run : List Char} {read : List (Branch Message)} (hRun : Blanks run)
    (hBlank : Ends isBlank rest) (hEnd : rest = [] ∨ rest.head? = some '\x7d')
    (hBound : (run ++ rest).length < bound) :
    readBranches bound scope read (run ++ rest) = .ok (read, rest) := by
  cases bound with
  | zero => exact absurd hBound (Nat.not_lt_zero _)
  | succ bound =>
      exact readBranches_eq_ok.mpr ⟨run, rest, ⟨hRun, rfl, hBlank⟩, Or.inl ⟨hEnd, rfl, rfl⟩⟩

mutual

/-- What the grammar of failures refuses as a message fails, with the same failure and by any bound
that is large enough. The induction is on the refusal. -/
theorem read_of_refusesMessage : {scope : Scope} → {input : List Char} → {failure : Failure} →
    RefusesMessage scope input failure → (bound : Nat) → input.length < bound →
      readMessage bound scope input = .error failure
  | _, _, _, .unopened hArguments hText, bound, hBound => by
      refine hArguments.readMessage_eq_error (fun bound hBound => ?_) bound hBound
      cases bound with
      | zero => exact absurd hBound (Nat.not_lt_zero _)
      | succ bound =>
          exact readMessage_eq_error.mpr ⟨_, _, hText, Or.inl ⟨⟨rfl, rfl⟩, rfl⟩⟩
  | _, _, _, .argument hArguments hText hArgument, bound, hBound => by
      refine hArguments.readMessage_eq_error (fun bound hBound => ?_) bound hBound
      cases bound with
      | zero => exact absurd hBound (Nat.not_lt_zero _)
      | succ bound =>
          have hLength := hText.length_le
          have hRead := read_of_refusesArgument hArgument bound (by omega)
          refine readMessage_eq_error.mpr ⟨_, _, hText, Or.inr ⟨?_, Or.inl hRead⟩⟩
          obtain ⟨others, rfl⟩ := hArgument.head
          simp

/-- A refused argument fails. It begins with a character of its own, so the bound may be equal to
the length. -/
theorem read_of_refusesArgument : {scope : Scope} → {input : List Char} → {failure : Failure} →
    RefusesArgument scope input failure → (bound : Nat) → input.length ≤ bound →
      readArgument bound scope input = .error failure
  | _, _, _, h, 0, hBound => by
      obtain ⟨others, rfl⟩ := h.head
      simp at hBound
  | _, _, _, .noId hBefore hBlank hChar, bound + 1, _ =>
      readArgument_eq_error.mpr (Or.inl (argumentId_eq_error.mpr
        ⟨_, [], _, hBefore, by simp, rfl, rfl, Or.inl ⟨rfl, hBlank, hChar⟩⟩))
  | _, _, _, .brokenId hBefore hName hBreak, bound + 1, _ =>
      readArgument_eq_error.mpr (Or.inl (argumentId_eq_error.mpr
        ⟨_, _, _, hBefore, hName, rfl, rfl, Or.inr hBreak⟩))
  | _, _, _, .afterId hId hBefore hAfter hEnd hNext, bound + 1, _ => by
      have hName := argumentId_eq_ok_any.mpr ⟨hId, _, _, hBefore, hAfter, rfl, hNext.1,
        hAfter.ends_of_end hEnd isBlank_of_isIdChar, hAfter.head_ne_of_end hEnd (by decide),
        hAfter.head_ne_of_end hEnd (by decide)⟩
      exact readArgument_eq_error.mpr (Or.inr ⟨_, _, hName, hNext.2 _ (by simp),
        Or.inl ⟨hNext.2 _ (by simp), rfl⟩⟩)
  | _, _, _, .noKeyword hId hHead hBefore hNext hNone, bound + 1, _ => by
      have hWord := keyword_eq_error.mpr ⟨_, _, hBefore, rfl, hNext, hNone, rfl⟩
      exact readArgument_of_comma hId hHead (Or.inl hWord)
  | _, _, _, @RefusesArgument.afterKeyword _ _ k _ _ _ _ hId hHead hBefore hAfter hLeading hNext,
    bound + 1, _ => by
      have hWord := keyword_eq_ok_any.mpr ⟨_, _, hBefore, hAfter, rfl, hLeading, hNext.1⟩
      refine readArgument_of_comma hId hHead (Or.inr ⟨_, _, hWord, ?_⟩)
      have hClose := hNext.2 '\x7d' (by simp)
      have hComma := hNext.2 ',' (by simp)
      cases k with
      | format f => exact formatted_eq_error.mpr ⟨hClose, Or.inl ⟨hComma, rfl⟩⟩
      | clause clause => exact readClause_eq_error.mpr (Or.inr ⟨hClose, Or.inl ⟨hComma, rfl⟩⟩)
  | _, _, _, .noStyle hStart hBefore hNext hStops, bound + 1, _ => by
      have hStyle := styleName_eq_error.mpr ⟨_, _, hBefore, rfl, hNext, hStops, rfl⟩
      exact readArgument_of_head (Or.inr rfl) (k := .format _)
        (formatted_eq_error.mpr ⟨by simp, Or.inr ⟨_, rfl, Or.inl hStyle⟩⟩) hStart
  | _, _, _, .afterStyle hStart hBefore hStyle hNonempty hAfter hNext, bound + 1, _ => by
      have hRead := styleName_eq_ok_any.mpr
        ⟨_, _, _, _, hBefore, rfl, hStyle, hNonempty, hAfter, hNext.1, rfl⟩
      exact readArgument_of_head (Or.inr rfl) (k := .format _) (formatted_eq_error.mpr
        ⟨by simp, Or.inr ⟨_, rfl, Or.inr ⟨_, _, hRead, hNext.2 _ (by simp), rfl⟩⟩⟩) hStart
  | _, _, _, .noBranches hStart, bound + 1, _ =>
      readArgument_of_head (Or.inl rfl) (k := .clause _)
        (readClause_eq_error.mpr (Or.inl ⟨rfl, rfl⟩)) hStart
  | _, _, _, .noOffset hStart hClause hBefore hInner hNext hNumber, bound + 1, _ => by
      have hOffset := pluralOffset_eq_error.mpr ⟨_, _, _, hBefore, hInner, rfl, hNext, hNumber, rfl⟩
      exact readArgument_of_head (Or.inr rfl) (k := .clause _) (readClause_eq_error.mpr
        (Or.inr ⟨by simp, Or.inr ⟨_, rfl, Or.inl ⟨hClause, hOffset⟩⟩⟩)) hStart
  | scope, _, _, @RefusesArgument.branches _ _ clause _ _ _ _ _ _ hStart hBefore hOpening hBranches,
    bound + 1, hBound => by
      obtain ⟨run, hRun, hLength, hRead⟩ := read_opening hOpening hBefore hBranches.ends
      have hShort := hStart.length_pos
      simp only [List.length_append, List.length_cons] at hBound hLength
      have hRefused := read_of_refusesBranches hBranches (branchScope_ne_root scope clause) bound run
        [] hRun (by rw [List.length_append]; omega)
      exact readArgument_of_head (Or.inr rfl) (k := .clause _) (readClause_eq_error.mpr
        (Or.inr ⟨by simp, Or.inr ⟨_, rfl, Or.inr ⟨_, _, hRead, Or.inl hRefused⟩⟩⟩)) hStart
  | scope, _, _, @RefusesArgument.unfinished _ _ clause _ _ _ _ _ _ _ _ hStart hBefore hOpening
      hBranches hEnd hProblem, bound + 1, hBound => by
      have hBlank : Ends isBlank _ := ends_of_end hEnd
      obtain ⟨run, hRun, hLength, hRead⟩ :=
        read_opening hOpening hBefore (hBranches.ends_of_rest hBlank)
      have hShort := hStart.length_pos
      simp only [List.length_append, List.length_cons] at hBound hLength
      have hOptions := hBranches.readBranches_eq (fun read => .ok (read, _))
        (branchScope_ne_root scope clause)
        (fun bound run read hRun hBound => readBranches_end hRun hBlank hEnd hBound) bound run [] hRun
        (by rw [List.length_append]; omega)
      exact readArgument_of_head (Or.inr rfl) (k := .clause _) (readClause_eq_error.mpr
        (Or.inr ⟨by simp, Or.inr ⟨_, rfl, Or.inr ⟨_, _, hRead, Or.inr ⟨_, _, hOptions,
          (closeClause_eq_error hEnd).mpr ⟨_, hProblem, rfl⟩⟩⟩⟩⟩)) hStart

theorem read_of_refusesBranches : {scope : Scope} → {input : List Char} → {failure : Failure} →
    RefusesBranches scope input failure → scope ≠ .root → (bound : Nat) → (run : List Char) →
      (read : List (Branch Message)) → Blanks run → (run ++ input).length < bound →
      readBranches bound scope read (run ++ input) = .error failure
  | _, _, _, .comma hBranches hComma, hScope => by
      refine hBranches.readBranches_eq_error hScope fun bound run read hRun _ => ?_
      have hSelector := selector_eq_error.mpr
        ⟨[], _, by simp, rfl, Or.inl ⟨Or.inr hComma, rfl⟩⟩
      exact readBranches_eq_error.mpr ⟨run, _, ⟨hRun, rfl, ends_of_head? hComma (by decide)⟩,
        ⟨by rintro rfl; simp at hComma, by simp [hComma]⟩, Or.inl hSelector⟩
  | _, _, _, .noSelector hBranches hBrace, hScope => by
      refine hBranches.readBranches_eq_error hScope fun bound run read hRun _ => ?_
      have hSelector := selector_eq_error.mpr ⟨[], _, by simp, rfl,
        Or.inr ⟨by simp [hBrace], rfl, ends_of_head? hBrace (by decide), rfl⟩⟩
      exact readBranches_eq_error.mpr ⟨run, _, ⟨hRun, rfl, ends_of_head? hBrace (by decide)⟩,
        ⟨by rintro rfl; simp at hBrace, by simp [hBrace]⟩, Or.inl hSelector⟩
  | _, _, _, .brokenSelector hBranches hName hBreak, hScope => by
      refine hBranches.readBranches_eq_error hScope fun bound run read hRun _ => ?_
      have hSelector := selector_eq_error.mpr ⟨_, _, hName.2, rfl, Or.inl ⟨hBreak, rfl⟩⟩
      exact readBranches_eq_error.mpr ⟨run, _,
        ⟨hRun, rfl, hName.ends_append isBlank_of_isSelectorChar _⟩, selector_ne_end hName _,
        Or.inl hSelector⟩
  | _, _, _, .afterSelector hBranches hName hBetween hEnd hNext, hScope => by
      refine hBranches.readBranches_eq_error hScope fun bound run read hRun _ => ?_
      have hSelector := selector_eq_ok_any.mpr ⟨hName, _, hBetween, rfl, hNext.1,
        hBetween.ends_of_end hEnd isBlank_of_isSelectorChar,
        hBetween.head_ne_of_end hEnd (by decide), hBetween.head_ne_of_end hEnd (by decide)⟩
      exact readBranches_eq_error.mpr ⟨run, _,
        ⟨hRun, rfl, hName.ends_append isBlank_of_isSelectorChar _⟩, selector_ne_end hName _,
        Or.inr ⟨_, _, hSelector, Or.inl ⟨hNext.2 _ (by simp), rfl⟩⟩⟩
  | _, _, _, @RefusesBranches.message _ name _ between start _ _ hBranches hName hBetween hMessage,
    hScope => by
      refine hBranches.readBranches_eq_error hScope fun bound run read hRun hBound => ?_
      simp only [List.length_append, List.length_cons] at hBound
      have hSelector : selector (name.toList ++ (between ++ '\x7b' :: start)) =
          .ok (name, '\x7b' :: start) :=
        selector_eq_ok.mpr ⟨hName, between, hBetween, rfl⟩
      have hRead := read_of_refusesMessage hMessage bound (by omega)
      exact readBranches_eq_error.mpr ⟨run, _,
        ⟨hRun, rfl, hName.ends_append isBlank_of_isSelectorChar _⟩, selector_ne_end hName _,
        Or.inr ⟨_, _, hSelector, Or.inr ⟨_, rfl, Or.inl hRead⟩⟩⟩
  | _, _, _, @RefusesBranches.unclosed _ name _ between start _ _ hBranches hName hBetween hMessage,
    hScope => by
      refine hBranches.readBranches_eq_error hScope fun bound run read hRun hBound => ?_
      simp only [List.length_append, List.length_cons] at hBound
      have hSelector : selector (name.toList ++ (between ++ '\x7b' :: start)) =
          .ok (name, '\x7b' :: start) :=
        selector_eq_ok.mpr ⟨hName, between, hBetween, rfl⟩
      have hRead := read_of_derivesMessage bound (by omega) hMessage (Or.inl rfl)
      exact readBranches_eq_error.mpr ⟨run, _,
        ⟨hRun, rfl, hName.ends_append isBlank_of_isSelectorChar _⟩, selector_ne_end hName _,
        Or.inr ⟨_, _, hSelector, Or.inr ⟨_, rfl, Or.inr ⟨_, _, hRead, Or.inl ⟨by simp, rfl⟩⟩⟩⟩⟩

end

/-- A pattern is refused exactly where the grammar of failures says, and for the reason it says.
Together with the grammar of patterns this tells everything about parsing. -/
theorem parse_eq_error_iff {pattern : String} {e : SyntaxError} :
    parse pattern = .error e ↔
      ∃ failure, RefusesMessage .root pattern.toList failure ∧ failure.locate pattern.toList = e := by
  rw [parse, parseChars, StateT.run]
  constructor
  · intro h
    split at h
    · cases h
    · rename_i failure hRead
      exact ⟨failure, refusesMessage_of_read _ (by decide) (Nat.lt_succ_self _) hRead,
        Except.error.inj h⟩
  · rintro ⟨failure, hRefused, rfl⟩
    rw [read_of_refusesMessage hRefused _ (Nat.lt_succ_self _)]

/-- A refused pattern splits into what has been read and what is left where it is refused. -/
theorem exists_refusal_of_parse {pattern : String} {e : SyntaxError} (h : parse pattern = .error e) :
    ∃ failure consumed, RefusesMessage .root pattern.toList failure ∧
      consumed ++ failure.rest = pattern.toList ∧ failure.locate pattern.toList = e ∧
      e.position = .after consumed := by
  obtain ⟨failure, hRefused, rfl⟩ := parse_eq_error_iff.mp h
  have hForward := (readsForward_of_bound (pattern.toList.length + 1)).1 .root pattern.toList
  rw [read_of_refusesMessage hRefused _ (Nat.lt_succ_self _)] at hForward
  obtain ⟨consumed, hSplit⟩ := hForward
  exact ⟨failure, consumed, hRefused, hSplit, rfl, locate_position hSplit⟩

end LocaleMessage.Pattern
