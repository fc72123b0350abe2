import LocaleMessage.Proofs.Pattern.Refusing
import LocaleMessage.Proofs.Pattern.Failure

/-! Refusals come in time. Whatever stands in front of the place where a pattern is refused can be
completed to a pattern that is not: every message, branch and clause that has been begun there can
be finished, also where the pattern ends in the middle of a quoted run. -/
namespace LocaleMessage.Pattern

open Reader

variable {scope : Scope} {input rest : List Char}

theorem QuotedBody.append_special {written value quoted : List Char} (h : QuotedBody written value)
    (hQuoted : ∀ c ∈ quoted, scope.isSpecial c = true) :
    QuotedBody (written ++ quoted) (value ++ quoted) := by
  induction h with
  | nil =>
      induction quoted with
      | nil => exact .nil
      | cons c others ih =>
          rw [List.forall_mem_cons] at hQuoted
          exact .plain (ne_apostrophe_of_isSpecial hQuoted.1) (ih hQuoted.2)
  | plain hPlain _ ih => exact .plain hPlain ih
  | doubled _ ih => exact .doubled ih

/-- The last unit of a pattern stays as it is in front of a brace, unless its apostrophe would quote
the brace. Then one more apostrophe ends it, and special characters before that are part of it. -/
theorem TextUnit.closed_or_open {written value : List Char} (h : TextUnit scope written value []) :
    (∀ rest, TextUnit scope written value ('\x7d' :: rest)) ∨
      ∀ quoted, (∀ c ∈ quoted, scope.isSpecial c = true) → ∃ value', ∀ rest,
        TextUnit scope (written ++ (quoted ++ ['\''])) value' ('\x7d' :: rest) := by
  cases h with
  | ordinary hPlain hOrdinary => exact Or.inl fun _ => .ordinary hPlain hOrdinary
  | doubled => exact Or.inl fun _ => .doubled
  | lone =>
      refine Or.inr fun quoted hQuoted => ?_
      cases quoted with
      | nil => exact ⟨['\''], fun _ => .doubled⟩
      | cons c others =>
          rw [List.forall_mem_cons] at hQuoted
          exact ⟨c :: others, fun _ =>
            .quoted hQuoted.1 (QuotedBody.nil.append_special hQuoted.2) (by simp)⟩
  | quoted hSpecial hBody => exact Or.inl fun _ => .quoted hSpecial hBody (by simp)
  | @unclosed c body value hSpecial hBody =>
      refine Or.inr fun quoted hQuoted => ⟨c :: (value ++ quoted), fun rest => ?_⟩
      have hUnit : TextUnit scope _ _ ('\x7d' :: rest) :=
        .quoted hSpecial (hBody.append_special hQuoted) (by simp)
      simpa using hUnit

theorem TextRun.closed_or_open {value : List Char} (h : TextRun scope input value []) :
    (∀ rest, TextRun scope (input ++ '\x7d' :: rest) value ('\x7d' :: rest)) ∨
      ∀ quoted, (∀ c ∈ quoted, scope.isSpecial c = true) → ∃ value', value' ≠ [] ∧ ∀ rest,
        TextRun scope (input ++ (quoted ++ '\'' :: '\x7d' :: rest)) value' ('\x7d' :: rest) := by
  generalize hEnd : ([] : List Char) = following at h
  induction h with
  | nil => exact Or.inl fun rest => by simpa [← hEnd] using TextRun.nil
  | @cons written unit input values _ hFirst hOthers ih =>
      subst hEnd
      cases input with
      | nil =>
          obtain ⟨rfl⟩ : values = [] := by
            cases values with
            | nil => rfl
            | cons c others =>
                obtain ⟨c, others, hNil, _⟩ := hOthers.head_of_ne_nil (by simp)
                simp at hNil
          rcases hFirst.closed_or_open with hClosed | hOpen
          · exact Or.inl fun rest => by simpa using TextRun.cons (hClosed rest) .nil
          · refine Or.inr fun quoted hQuoted => ?_
            obtain ⟨value', hUnit⟩ := hOpen quoted hQuoted
            exact ⟨value', (hUnit []).value_ne_nil, fun rest => by
              simpa using TextRun.cons (hUnit rest) .nil⟩
      | cons c others =>
          have hFirst' (rest : List Char) : TextUnit scope written unit (c :: others ++ rest) :=
            hFirst.of_following (by simp) (Or.inl rfl)
          rcases ih rfl with hClosed | hOpen
          · exact Or.inl fun rest => by simpa using TextRun.cons (hFirst' _) (hClosed rest)
          · refine Or.inr fun quoted hQuoted => ?_
            obtain ⟨value', hNonempty, hRun⟩ := hOpen quoted hQuoted
            exact ⟨unit ++ value', by simp [hNonempty], fun rest => by
              simpa using TextRun.cons (hFirst' _) (hRun rest)⟩

/-- Text at the end of a pattern can be completed to text in front of a brace, also when a brace is
put behind it first. -/
theorem MaximalText.exists_completed {value next : List Char} (h : MaximalText scope input value [])
    (hNext : next = [] ∨ next = ['\x7d']) (rest : List Char) :
    ∃ more value', (value ≠ [] → value' ≠ []) ∧
      MaximalText scope (input ++ (next ++ more)) value' ('\x7d' :: rest) := by
  have hStops : StopsText scope ('\x7d' :: rest) := stopsText_brace scope rest
  rcases h.1.closed_or_open with hClosed | hOpen
  · obtain ⟨more, hMore⟩ : ∃ more, next ++ more = '\x7d' :: rest := by
      rcases hNext with rfl | rfl
      · exact ⟨_, rfl⟩
      · exact ⟨rest, rfl⟩
    exact ⟨more, value, id, maximalText_iff.mpr ⟨hMore ▸ hClosed rest, hStops⟩⟩
  · have hSpecial : ∀ c ∈ next, scope.isSpecial c = true := by
      rcases hNext with rfl | rfl <;> simp [Scope.isSpecial]
    obtain ⟨value', hNonempty, hRun⟩ := hOpen next hSpecial
    exact ⟨_, value', fun _ => hNonempty, maximalText_iff.mpr ⟨hRun rest, hStops⟩⟩

/-- A message that the pattern ends in can be completed in front of a brace. The message may be
another one then, if its text was open. -/
theorem DerivesMessage.exists_completed {message : Message} {next : List Char}
    (h : DerivesMessage scope input message []) (hNext : next = [] ∨ next = ['\x7d'])
    (rest : List Char) : ∃ more message',
      DerivesMessage scope (input ++ (next ++ more)) message' ('\x7d' :: rest) := by
  obtain ⟨elements, middle, text, hArguments, hText, -⟩ := h.exists_arguments
  obtain ⟨written, rfl, hWritten⟩ := hArguments.exists_written
  obtain ⟨more, text', -, hText'⟩ := hText.exists_completed hNext rest
  refine ⟨more, elements ++ textElements text', ?_⟩
  simpa using (hWritten _).message (.last hText')

theorem DerivesBranches.append {branches others : List (Branch Message)} {middle : List Char} :
    {input : List Char} → DerivesBranches scope input branches middle →
      DerivesBranches scope middle others rest →
      DerivesBranches scope input (branches ++ others) rest := by
  intro input h hOthers
  induction branches generalizing input with
  | nil =>
      cases h with
      | nil => exact hOthers
  | cons first kept ih =>
      cases h with
      | cons hName hBetween hMessage hAfter hKept =>
          exact .cons hName hBetween hMessage hAfter (ih hKept)

theorem derivesBranches_single {name : String} {between start : List Char} {message : Message}
    (hName : IsName isSelectorChar name) (hBetween : Blanks between)
    (hMessage : DerivesMessage scope start message ('\x7d' :: rest)) :
    DerivesBranches scope (name.toList ++ (between ++ '\x7b' :: start)) [⟨name, message⟩] rest :=
  @DerivesBranches.cons scope name message [] between start [] rest rest hName hBetween hMessage
    blanks_nil .nil

/-- A branch with nothing in it. The empty message is derived in front of its brace. -/
theorem derivesBranches_empty {name : String} {between : List Char} (scope : Scope)
    (hName : IsName isSelectorChar name) (hBetween : Blanks between) (rest : List Char) :
    DerivesBranches scope (name.toList ++ (between ++ '\x7b' :: '\x7d' :: rest)) [⟨name, []⟩]
      rest :=
  derivesBranches_single hName hBetween
    (@DerivesMessage.last _ _ [] _ (maximalText_iff.mpr ⟨.nil, stopsText_brace scope rest⟩))

theorem derivesBranches_other (scope : Scope) (rest : List Char) :
    DerivesBranches scope ("other\x7b\x7d".toList ++ rest) [⟨"other", []⟩] rest := by
  have hName : IsName isSelectorChar "other" := ⟨by decide, List.all_eq_true.mp (by decide)⟩
  simpa using derivesBranches_empty scope hName blanks_nil rest

theorem derivesOpening_other (clause : Clause) (rest : List Char) :
    DerivesOpening clause ("other\x7b\x7d\x7d".toList ++ rest) 0
      ("other\x7b\x7d\x7d".toList ++ rest) := by
  by_cases hClause : clause = .select
  · subst hClause
    exact .select
  · exact .plural hClause (.absent (by simp))

/-- Branches that may be followed by others may be followed by one for all other cases, which does
not begin like an offset. -/
theorem keepsOffset_other {written : List Char}
    (h : written = [] ∨ ∃ c ∈ written, isSelectorChar c = false) (rest rest' : List Char) :
    KeepsOffset (written ++ rest) (written ++ ("other\x7b\x7d".toList ++ rest')) := by
  rcases h with rfl | hBreak
  · exact ⟨Or.inr (ends_cons.mpr (by decide)), by simp⟩
  · exact keepsOffset_append hBreak _ _

theorem DerivesArgument.of_clause {id : String} {clause : Clause} {offset : UInt32}
    {branches : List (Branch Message)} {start before middle : List Char}
    (hStart : ArgumentHead id (.clause clause) start) (hBefore : Blanks before)
    (hOpening : DerivesOpening clause input offset middle)
    (hBranches : DerivesBranches (clause.branchScope scope) middle branches ('\x7d' :: rest))
    (hOther : ∃ branch ∈ branches, branch.selector = "other") :
    DerivesArgument scope (start ++ ',' :: (before ++ input))
      (clause.element id offset (Branch.merge branches)) rest := by
  obtain @⟨head, keyword, hId, hHead, hKeyword⟩ := hStart
  cases hOpening with
  | plural hClause hOffset =>
      rw [Clause.branchScope, if_neg hClause] at hBranches
      simpa using DerivesArgument.plural hId hHead hClause hKeyword hBefore hOffset hBranches hOther
  | select =>
      simpa [Clause.element] using
        DerivesArgument.select hId hHead hKeyword hBefore hBranches hOther

theorem DerivesArgument.of_styled {id : String} {f : Format} {start before after style : List Char}
    (scope : Scope) (hStart : ArgumentHead id (.format f) start) (hBefore : Blanks before)
    (hStyle : MaximalText .style input style (after ++ '\x7d' :: rest)) (hNonempty : style ≠ [])
    (hAfter : Blanks after) :
    DerivesArgument scope (start ++ ',' :: (before ++ input))
      (f.element id (some (String.ofList style))) rest := by
  obtain @⟨head, keyword, hId, hHead, hKeyword⟩ := hStart
  simpa using DerivesArgument.styled hId hHead hKeyword hBefore hStyle hNonempty hAfter

/-- What may be put where a pattern was refused: nothing, or the character that was waited for.
Other things that are waited for leave a choice. -/
def Hint (problem : Problem) (next : List Char) : Prop :=
  next = [] ∨ ∃ c, problem = .expected (.token c) ∧ next = [c]

/-- Whether a beginning can be completed in front of any tail. -/
def Completes (target : List Char → List Char → Prop) (start : List Char) : Prop :=
  ∀ tail, ∃ more, target (start ++ more) tail

/-- Whether what stands in front of a failure can be completed, and also with the character that was
waited for behind it. There is one exception: where a comma stands in the place of a selector a
brace is said to be missing, but the brace is refused in turn, since it is the selector that is. -/
def Resumes (target : List Char → List Char → Prop) (refuses : List Char → Failure → Prop)
    (input : List Char) (failure : Failure) : Prop :=
  ∃ consumed, input = consumed ++ failure.rest ∧ ∀ next, Hint failure.problem next →
    Completes target (consumed ++ next) ∨
      (next = ['\x7b'] ∧ failure.rest.head? = some ',') ∧
        ∀ others, refuses (consumed ++ '\x7b' :: others) ⟨.expected .selector, '\x7b' :: others⟩

section
variable {target target' : List Char → List Char → Prop}
  {refuses refuses' : List Char → Failure → Prop} {failure : Failure}

/-- One completion will do for what stands in front of a failure if it begins with the character
that was waited for. -/
theorem Resumes.of_completes {problem : Problem} {consumed more : List Char}
    (hInput : input = consumed ++ rest) (h : ∀ tail, target (consumed ++ (more ++ tail)) tail)
    (hHint : ∀ c, problem = .expected (.token c) → more.head? = some c) :
    Resumes target refuses input ⟨problem, rest⟩ := by
  refine ⟨consumed, hInput, fun next hNext => Or.inl fun tail => ?_⟩
  rcases hNext with rfl | ⟨c, hProblem, rfl⟩
  · exact ⟨more ++ tail, by simpa using h tail⟩
  · obtain ⟨others, rfl⟩ := List.head?_eq_some_iff.mp (hHint c hProblem)
    exact ⟨others ++ tail, by simpa using h tail⟩

/-- A failure goes on in front of what stood there already. -/
theorem Resumes.within {written : List Char} (before : List Char → List Char)
    (h : Resumes target refuses input failure)
    (hTarget : ∀ new tail, target new (before tail) → target' (written ++ new) tail)
    (hRefuses : ∀ new failure, refuses new failure → refuses' (written ++ new) failure) :
    Resumes target' refuses' (written ++ input) failure := by
  obtain ⟨consumed, rfl, hResumes⟩ := h
  refine ⟨written ++ consumed, by simp, fun next hNext => ?_⟩
  rcases hResumes next hNext with hCompletes | ⟨hComma, hRefused⟩
  · refine Or.inl fun tail => ?_
    obtain ⟨more, hMore⟩ := hCompletes (before tail)
    exact ⟨more, by simpa using hTarget _ tail hMore⟩
  · exact Or.inr ⟨hComma, fun others => by simpa using hRefuses _ _ (hRefused others)⟩

end

/-- Whether a message stands in front of the tail, if that may stop it. Which message it is is left
open. -/
def MessageBefore (scope : Scope) (input tail : List Char) : Prop :=
  StopsText scope tail → ∃ message, DerivesMessage scope input message tail

/-- Whether an argument stands in front of the tail. Nothing is asked of the tail, as an argument
ends itself. -/
def ArgumentBefore (scope : Scope) (input tail : List Char) : Prop :=
  ∃ element, DerivesArgument scope input element tail

/-- Whether the branches of a clause stand in front of its brace and the tail, in the place of what
has stood there before. -/
def BranchesBefore (scope : Scope) (original input tail : List Char) : Prop :=
  KeepsOffset original input ∧ ∃ branches, DerivesBranches scope input branches ('\x7d' :: tail) ∧
    ∃ branch ∈ branches, branch.selector = "other"

/-- A name may be given one more letter, also where it has none yet. -/
theorem argumentBefore_name {before name : List Char} (scope : Scope) (hBefore : Blanks before)
    (hName : ∀ c ∈ name, isIdChar c = true) (tail : List Char) :
    ArgumentBefore scope ('\x7b' :: (before ++ name) ++ ("x\x7d".toList ++ tail)) tail := by
  have hId : IsName isIdChar (String.ofList (name ++ ['x'])) := by
    refine isName_ofList.mpr ⟨by simp, fun c hMem => ?_⟩
    rcases List.mem_append.mp hMem with hMem | hMem
    · exact hName c hMem
    · obtain rfl := List.mem_singleton.mp hMem
      decide
  refine ⟨.argument (String.ofList (name ++ ['x'])), ?_⟩
  simpa using @DerivesArgument.plain scope _ _ tail hId ⟨hBefore, blanks_nil⟩

theorem argumentBefore_keyword {id : String} {head before : List Char} (scope : Scope)
    (hId : IsName isIdChar id) (hHead : Padded id head) (hBefore : Blanks before)
    (tail : List Char) :
    ArgumentBefore scope
      ('\x7b' :: head ++ ',' :: before ++ ("number\x7d".toList ++ tail)) tail := by
  refine ⟨Format.element id none .number, ?_⟩
  simpa [Format.text] using
    @DerivesArgument.format scope _ .number _ _ tail hId hHead ⟨hBefore, blanks_nil⟩

theorem argumentBefore_style {id : String} {f : Format} {start before : List Char} (scope : Scope)
    (hStart : ArgumentHead id (.format f) start) (hBefore : Blanks before) (tail : List Char) :
    ArgumentBefore scope (start ++ ',' :: before ++ ("x\x7d".toList ++ tail)) tail := by
  have hText : MaximalText .style ('x' :: '\x7d' :: tail) ['x'] ([] ++ '\x7d' :: tail) :=
    maximalText_iff.mpr ⟨.cons (.ordinary (by decide) (by decide)) .nil, stopsText_brace _ _⟩
  have hStyled := DerivesArgument.of_styled scope hStart hBefore hText (by simp) blanks_nil
  exact ⟨_, by simpa using hStyled⟩

/-- A clause may have one branch only, for all other cases. Whatever clause has been begun can be
finished by it. -/
theorem argumentBefore_other {id : String} {clause : Clause} {offset : UInt32}
    {start before tail : List Char} (scope : Scope)
    (hStart : ArgumentHead id (.clause clause) start) (hBefore : Blanks before)
    (hOpening : DerivesOpening clause input offset ("other\x7b\x7d\x7d".toList ++ tail)) :
    ArgumentBefore scope (start ++ ',' :: (before ++ input)) tail :=
  ⟨_, .of_clause hStart hBefore hOpening (derivesBranches_other _ ('\x7d' :: tail))
    ⟨_, List.mem_singleton_self _, rfl⟩⟩

/-- Behind the head of an argument there may stand a style, or branches. Both begin with a comma,
which is what is waited for. -/
theorem ArgumentHead.exists_completed {id : String} {k : Keyword} {start : List Char}
    (scope : Scope) (hStart : ArgumentHead id k start) : ∃ more, more.head? = some ',' ∧
      ∀ tail, ArgumentBefore scope (start ++ (more ++ tail)) tail := by
  cases k with
  | format f =>
      exact ⟨",x\x7d".toList, rfl, fun tail => by
        simpa using argumentBefore_style scope hStart blanks_nil tail⟩
  | clause clause =>
      exact ⟨",other\x7b\x7d\x7d".toList, rfl, fun tail => by
        simpa using argumentBefore_other scope hStart blanks_nil (derivesOpening_other clause _)⟩

/-- Behind branches there may stand one for all other cases. If there is one already, its message is
replaced. -/
theorem DerivesBranches.exists_other {branches : List (Branch Message)}
    (h : DerivesBranches scope input branches rest) : ∃ written, input = written ++ rest ∧
      (∀ rest', DerivesBranches scope (written ++ rest') branches rest') ∧
      ∀ tail,
        BranchesBefore scope input (written ++ ("other\x7b\x7d\x7d".toList ++ tail)) tail := by
  obtain ⟨written, rfl, hBreak, hWritten⟩ := h.exists_written
  refine ⟨written, rfl, hWritten, fun tail => ⟨?_, branches ++ [⟨"other", []⟩], ?_, ?_⟩⟩
  · exact keepsOffset_other (hBreak.imp_left And.left) _ ('\x7d' :: tail)
  · exact (hWritten _).append (derivesBranches_other scope ('\x7d' :: tail))
  · exact ⟨⟨"other", []⟩, by simp, rfl⟩

/-- Behind a selector there may stand a message with nothing in it, and then a branch for all other
cases. -/
theorem DerivesBranches.exists_empty {branches : List (Branch Message)} {name : String}
    {between : List Char}
    (h : DerivesBranches scope input branches (name.toList ++ (between ++ rest)))
    (hName : IsName isSelectorChar name) (hBetween : Blanks between) :
    ∃ written, input = written ++ rest ∧ ∀ tail, BranchesBefore scope input
      (written ++ ("\x7b\x7dother\x7b\x7d\x7d".toList ++ tail)) tail := by
  obtain ⟨written, rfl, -, hWritten⟩ := h.exists_written
  refine ⟨written ++ (name.toList ++ between), by simp, fun tail => ?_⟩
  have hKeeps : KeepsOffset (written ++ (name.toList ++ between) ++ rest)
      (written ++ (name.toList ++ between) ++ ("\x7b\x7dother\x7b\x7d\x7d".toList ++ tail)) :=
    keepsOffset_of_ends (ends_cons.mpr (by decide)) _ _
  have hBranches := (hWritten _).append ((derivesBranches_empty scope hName hBetween _).append
    (derivesBranches_other scope ('\x7d' :: tail)))
  exact ⟨by simpa using hKeeps, _, by simpa using hBranches, ⟨"other", []⟩, by simp, rfl⟩

/-- Behind the message of a branch there may stand a branch for all other cases. -/
theorem DerivesBranches.append_message {branches : List (Branch Message)} {name : String}
    {between start tail : List Char} {message : Message}
    (h : DerivesBranches scope input branches (name.toList ++ (between ++ '\x7b' :: start)))
    (hName : IsName isSelectorChar name) (hBetween : Blanks between)
    (hMessage : DerivesMessage scope start message
      ('\x7d' :: ("other\x7b\x7d".toList ++ '\x7d' :: tail))) :
    ∃ branches, DerivesBranches scope input branches ('\x7d' :: tail) ∧
      ∃ branch ∈ branches, branch.selector = "other" :=
  ⟨_, h.append ((derivesBranches_single hName hBetween hMessage).append
    (derivesBranches_other scope ('\x7d' :: tail))), ⟨"other", []⟩, by simp, rfl⟩

/-- Behind its branches a clause can be finished, by the branch that is missing or by the brace. -/
theorem Unfinished.exists_completed {clause : Clause} {branches : List (Branch Message)}
    {problem : Problem} (h : Unfinished clause branches rest problem)
    (hBranches : DerivesBranches scope input branches rest) :
    ∃ written more, input = written ++ rest ∧
      (∀ c, problem = .expected (.token c) → more.head? = some c) ∧
      ∀ tail, BranchesBefore scope input (written ++ (more ++ tail)) tail := by
  cases h with
  | empty | missingOther =>
      obtain ⟨written, hInput, -, hOther⟩ := hBranches.exists_other
      exact ⟨written, _, hInput, by simp, hOther⟩
  | unclosed hOther =>
      obtain ⟨written, rfl, -, hWritten⟩ := hBranches.exists_written
      exact ⟨written, ['\x7d'], rfl, by simp, fun tail =>
        ⟨keepsOffset_of_ends (ends_cons.mpr (by decide)) _ _, _, hWritten _, hOther⟩⟩

/-- The branches of a clause may be others, if they keep its offset. -/
theorem DerivesOpening.exists_branches {id : String} {clause : Clause} {offset : UInt32}
    {start before middle : List Char} (scope : Scope)
    (hStart : ArgumentHead id (.clause clause) start) (hBefore : Blanks before)
    (hOpening : DerivesOpening clause input offset middle) :
    ∃ written, start ++ ',' :: (before ++ input) = written ++ middle ∧
      (∀ new tail, BranchesBefore (clause.branchScope scope) middle new tail →
        ArgumentBefore scope (written ++ new) tail) ∧
      ∀ new failure, KeepsOffset middle new →
        RefusesBranches (clause.branchScope scope) new failure →
        RefusesArgument scope (written ++ new) failure := by
  obtain ⟨written, rfl, hWritten⟩ := hOpening.exists_written
  refine ⟨start ++ ',' :: (before ++ written), by simp, ?_, ?_⟩
  · rintro new tail ⟨hKeeps, branches, hBranches, hOther⟩
    have hArgument :=
      DerivesArgument.of_clause hStart hBefore (hWritten new hKeeps) hBranches hOther
    exact ⟨_, by simpa using hArgument⟩
  · intro new failure hKeeps hBranches
    simpa using RefusesArgument.branches hStart hBefore (hWritten new hKeeps) hBranches

/-- A style that the pattern ends in or behind can be completed, also where it ends in a quoted
run. -/
theorem resumes_style {id : String} {f : Format} {start before style after : List Char}
    (scope : Scope) (hStart : ArgumentHead id (.format f) start) (hBefore : Blanks before)
    (hStyle : MaximalText .style input style (after ++ rest)) (hNonempty : style ≠ [])
    (hAfter : Blanks after) :
    Resumes (ArgumentBefore scope) (RefusesArgument scope) (start ++ ',' :: (before ++ input))
      ⟨.expected (.token '\x7d'), rest⟩ := by
  by_cases hRest : after ++ rest = []
  · obtain ⟨rfl, rfl⟩ := List.append_eq_nil_iff.mp hRest
    refine ⟨_, (List.append_nil _).symm, fun next hNext => Or.inl fun tail => ?_⟩
    have hNext' : next = [] ∨ next = ['\x7d'] := by simpa [Hint, eq_comm] using hNext
    obtain ⟨more, style', hNonempty', hStyle'⟩ := hStyle.exists_completed hNext' tail
    have hArgument := DerivesArgument.of_styled scope hStart hBefore hStyle'
      (hNonempty' hNonempty) blanks_nil
    exact ⟨more, _, by simpa using hArgument⟩
  · obtain ⟨written, rfl, hWritten⟩ := hStyle.exists_written hRest
    have hArgument (tail : List Char) : ArgumentBefore scope
        (start ++ ',' :: (before ++ (written ++ after)) ++ (['\x7d'] ++ tail)) tail := by
      have hStyled := DerivesArgument.of_styled scope hStart hBefore
        (hWritten _ (hAfter.stopsText tail)) hNonempty hAfter
      exact ⟨_, by simpa using hStyled⟩
    exact .of_completes (by simp) hArgument (by simp)

-- By induction on the refusal: the innermost failure is given what it wants, and each branch,
-- clause and message around it is then finished in turn.
mutual

/-- In front of every refusal of a message it can be completed. The three statements go by recursion
on the refusal, one case for each place. -/
theorem RefusesMessage.resumes : {scope : Scope} → {input : List Char} → {failure : Failure} →
    RefusesMessage scope input failure →
      Resumes (MessageBefore scope) (RefusesMessage scope) input failure
  | _, _, _, .unopened hArguments hText => by
      obtain ⟨written, rfl, hWritten⟩ := hArguments.exists_written_text hText (by simp)
      refine @Resumes.of_completes _ _ _ _ _ _ [] rfl (fun tail hStops => ?_) (by simp)
      obtain ⟨middle, hArguments', hText'⟩ := hWritten tail hStops
      exact ⟨_, hArguments'.message (.last hText')⟩
  | scope, _, _, .argument hArguments hText hArgument => by
      obtain ⟨written, rfl, hWritten⟩ := hArguments.exists_written_text hText hArgument.ne_nil
      refine hArgument.resumes.within id ?_ ?_
      · rintro new tail ⟨element, hElement⟩ hStops
        obtain ⟨middle, hArguments', hText'⟩ := hWritten new hElement.stopsText
        have hEnd : DerivesMessage scope tail (textElements []) tail :=
          .last (maximalText_iff.mpr ⟨.nil, hStops⟩)
        exact ⟨_, hArguments'.message (.cons hText' hElement hEnd)⟩
      · intro new failure hRefused
        obtain ⟨middle, hArguments', hText'⟩ := hWritten new hRefused.stopsText
        exact .argument hArguments' hText' hRefused

theorem RefusesArgument.resumes : {scope : Scope} → {input : List Char} → {failure : Failure} →
    RefusesArgument scope input failure →
      Resumes (ArgumentBefore scope) (RefusesArgument scope) input failure
  | scope, _, _, .noId hBefore _ _ =>
      .of_completes (by simp) (argumentBefore_name scope hBefore (List.forall_mem_nil _)) (by simp)
  | scope, _, _, .brokenId hBefore hName _ =>
      .of_completes (by simp) (argumentBefore_name scope hBefore hName) (by simp)
  | scope, _, _, @RefusesArgument.afterId _ id before after _ hId hBefore hAfter _ _ => by
      have hKeyword (tail : List Char) : ArgumentBefore scope
          ('\x7b' :: (before ++ id.toList ++ after) ++ (",number\x7d".toList ++ tail)) tail := by
        simpa using argumentBefore_keyword scope hId ⟨hBefore, hAfter⟩ blanks_nil tail
      exact .of_completes (by simp) hKeyword (by simp)
  | scope, _, _, .noKeyword hId hHead hBefore _ _ =>
      .of_completes (by simp) (argumentBefore_keyword scope hId hHead hBefore) (by simp)
  | scope, _, _, @RefusesArgument.afterKeyword _ id k _ _ _ _ hId hHead hBefore hAfter _ _ => by
      have hStart : ArgumentHead id k _ := ⟨hId, hHead, ⟨hBefore, hAfter⟩⟩
      obtain ⟨more, hComma, hMore⟩ := hStart.exists_completed scope
      exact .of_completes (by simp) hMore (by simp [hComma])
  | scope, _, _, .noStyle hStart hBefore _ _ =>
      .of_completes (by simp) (argumentBefore_style scope hStart hBefore) (by simp)
  | scope, _, _, .afterStyle hStart hBefore hStyle hNonempty hAfter _ =>
      resumes_style scope hStart hBefore hStyle hNonempty hAfter
  | scope, _, _, .noBranches hStart => by
      obtain ⟨more, -, hMore⟩ := hStart.exists_completed scope
      exact .of_completes rfl hMore (by simp)
  | scope, _, _, @RefusesArgument.noOffset _ _ _ start before inner _ hStart hClause hBefore hInner
      _ _ => by
      have hOffset (tail : List Char) := @DerivesOffset.given inner ['1'] []
        ("other\x7b\x7d\x7d".toList ++ tail) hInner (by simp) (by decide)
        (ends_cons.mpr (by decide)) blanks_nil
      have hClause' (tail : List Char) : ArgumentBefore scope
          (start ++ ',' :: (before ++ ("offset:".toList ++ inner)) ++
            ("1other\x7b\x7d\x7d".toList ++ tail)) tail := by
        simpa using argumentBefore_other scope hStart hBefore (.plural hClause (hOffset tail))
      exact .of_completes (by simp) hClause' (by simp)
  | scope, _, _, .branches hStart hBefore hOpening hBranches => by
      obtain ⟨written, hInput, hTarget, hRefuses⟩ := hOpening.exists_branches scope hStart hBefore
      rw [hInput]
      exact hBranches.resumes.within id hTarget fun new failure h => hRefuses new failure h.1 h.2
  | scope, _, _, .unfinished hStart hBefore hOpening hBranches _ hProblem => by
      obtain ⟨written, hInput, hTarget, -⟩ := hOpening.exists_branches scope hStart hBefore
      obtain ⟨others, more, rfl, hHint, hMore⟩ := hProblem.exists_completed hBranches
      rw [hInput]
      refine .of_completes (List.append_assoc ..).symm (fun tail => ?_) hHint
      simpa using hTarget _ tail (hMore tail)

theorem RefusesBranches.resumes : {scope : Scope} → {input : List Char} → {failure : Failure} →
    RefusesBranches scope input failure →
      Resumes (BranchesBefore scope input)
        (fun new failure => KeepsOffset input new ∧ RefusesBranches scope new failure) input failure
  | scope, _, _, .comma hBranches hComma => by
      obtain ⟨written, rfl, hWritten, hOther⟩ := hBranches.exists_other
      refine ⟨written, rfl, fun next hNext => ?_⟩
      rcases hNext with rfl | ⟨c, hProblem, rfl⟩
      · exact Or.inl fun tail => ⟨_, by simpa using hOther tail⟩
      · obtain rfl : '\x7b' = c := by simpa using hProblem
        exact Or.inr ⟨⟨rfl, hComma⟩, fun others =>
          ⟨keepsOffset_of_ends (ends_cons.mpr (by decide)) _ _, .noSelector (hWritten _) rfl⟩⟩
  | scope, _, _, .noSelector hBranches _ => by
      obtain ⟨written, hInput, -, hOther⟩ := hBranches.exists_other
      exact .of_completes hInput hOther (by simp)
  | scope, _, _, .brokenSelector hBranches hName _ => by
      obtain ⟨written, hInput, hEmpty⟩ := DerivesBranches.exists_empty hBranches hName blanks_nil
      exact .of_completes hInput hEmpty (by simp)
  | scope, _, _, .afterSelector hBranches hName hBetween _ _ => by
      obtain ⟨written, hInput, hEmpty⟩ := hBranches.exists_empty hName hBetween
      exact .of_completes hInput hEmpty (by simp)
  | scope, _, _, .message hBranches hName hBetween hMessage => by
      obtain ⟨written, rfl, hStart⟩ := hBranches.exists_start
      refine hMessage.resumes.within
        (fun tail => '\x7d' :: ("other\x7b\x7d".toList ++ '\x7d' :: tail))
        (fun new tail hTarget => ?_) (fun new failure hRefused => ?_)
      · obtain ⟨message, hNew⟩ := hTarget (stopsText_brace scope _)
        exact ⟨(hStart new).1, (hStart new).2.append_message hName hBetween hNew⟩
      · exact ⟨(hStart new).1, .message (hStart new).2 hName hBetween hRefused⟩
  | scope, _, _, .unclosed hBranches hName hBetween hMessage => by
      obtain ⟨written, rfl, hStart⟩ := hBranches.exists_start
      refine ⟨_, (List.append_nil _).symm, fun next hNext => Or.inl fun tail => ?_⟩
      have hNext' : next = [] ∨ next = ['\x7d'] := by simpa [Hint, eq_comm] using hNext
      obtain ⟨more, message, hNew⟩ :=
        hMessage.exists_completed hNext' ("other\x7b\x7d".toList ++ '\x7d' :: tail)
      obtain ⟨hKeeps, hBranches'⟩ := hStart (_ ++ (next ++ more))
      refine ⟨more, ?_⟩
      rw [List.append_assoc, List.append_assoc]
      exact ⟨hKeeps, hBranches'.append_message hName hBetween hNew⟩

end

/-- A refused pattern splits where it is refused, and goes on from there as its failure does. What
is said of completing patterns is read off this. -/
theorem exists_resumption_of_parse {pattern : String} {e : SyntaxError}
    (h : parse pattern = .error e) : ∃ front back, pattern = front ++ back ∧
      front.utf8ByteSize = e.position.offset ∧ ∀ next, Hint e.problem next →
        (∃ more message, parse (front ++ (String.ofList next ++ more)) = .ok message) ∨
          (next = ['\x7b'] ∧ e.found = .character ',') ∧ ∀ more, ∃ e',
            parse (front ++ ("\x7b" ++ more)) = .error e' ∧ e'.expected = some .selector ∧
              e'.position = e.position := by
  obtain ⟨failure, hRefused, rfl⟩ := parse_eq_error_iff.mp h
  obtain ⟨consumed, hPattern, hResumes⟩ := hRefused.resumes
  have hPosition := locate_position hPattern.symm
  refine ⟨String.ofList consumed, String.ofList failure.rest, ?_, ?_, fun next hNext => ?_⟩
  · rw [← String.ofList_append, ← hPattern, String.ofList_toList]
  · rw [hPosition, Text.offset_after, String.utf8ByteSize_ofList]
  · rcases hResumes next hNext with hCompletes | ⟨⟨rfl, hComma⟩, hBrace⟩
    · obtain ⟨more, hMessage⟩ := hCompletes []
      obtain ⟨message, hDerived⟩ := hMessage (by simp [StopsText])
      refine Or.inl ⟨String.ofList more, message, parseChars_of_derives ?_⟩
      simpa using hDerived
    · obtain ⟨others, hRest⟩ := List.head?_eq_some_iff.mp hComma
      refine Or.inr ⟨⟨rfl, by simp [Failure.locate, hRest, Found.first]⟩, fun more => ?_⟩
      have hMore : RefusesMessage .root (String.ofList consumed ++ ("\x7b" ++ more)).toList
          ⟨.expected .selector, '\x7b' :: more.toList⟩ := by
        simpa using hBrace more.toList
      refine ⟨_, parse_eq_error_iff.mpr ⟨_, hMore, rfl⟩, rfl, ?_⟩
      rw [hPosition]
      exact locate_position (by simp)

/-- A pattern is not refused too late: what stands in front of the place where it is refused begins
a pattern that is not. -/
theorem exists_completion_of_parse {pattern : String} {e : SyntaxError}
    (h : parse pattern = .error e) : ∃ front back, pattern = front ++ back ∧
      front.utf8ByteSize = e.position.offset ∧
      ∃ more message, parse (front ++ more) = .ok message := by
  obtain ⟨front, back, hPattern, hOffset, hResumes⟩ := exists_resumption_of_parse h
  rcases hResumes [] (Or.inl rfl) with ⟨more, message, hMore⟩ | ⟨⟨hBrace, _⟩, _⟩
  · exact ⟨front, back, hPattern, hOffset, more, message, by simpa using hMore⟩
  · simp at hBrace

/-- The pattern ends in a quoted run, which would take in the braces that are missing. -/
theorem exists_completion_of_parse_quoted : ∃ e,
    parse "\x7bn, plural, other \x7ba '\x7db" = .error e ∧ ∃ front back,
      "\x7bn, plural, other \x7ba '\x7db" = front ++ back ∧
      front.utf8ByteSize = e.position.offset ∧
      ∃ more message, parse (front ++ more) = .ok message := by
  have hParse : ∃ e, parse "\x7bn, plural, other \x7ba '\x7db" = .error e := by
    unfold parse
    simp only [String.reduceToList]
    exact ⟨_, rfl⟩
  obtain ⟨e, hError⟩ := hParse
  exact ⟨e, hError, exists_completion_of_parse hError⟩

/-- The character that was waited for may stand where the pattern is refused. There is one
exception: where a comma stands in the place of a selector a brace is said to be missing, and the
brace is then refused for a selector. -/
theorem parse_expected_token {pattern : String} {e : SyntaxError} {c : Char}
    (h : parse pattern = .error e) (hToken : e.expected = some (.token c)) :
    ∃ front back, pattern = front ++ back ∧ front.utf8ByteSize = e.position.offset ∧
      ((∃ more message, parse (front ++ (c.toString ++ more)) = .ok message) ∨
        (c = '\x7b' ∧ e.found = .character ',') ∧ ∀ more, ∃ e',
          parse (front ++ ("\x7b" ++ more)) = .error e' ∧ e'.expected = some .selector ∧
            e'.position = e.position) := by
  obtain ⟨front, back, hPattern, hOffset, hResumes⟩ := exists_resumption_of_parse h
  have hProblem : e.problem = .expected (.token c) := by
    unfold SyntaxError.expected at hToken
    split at hToken
    · rename_i what hWhat
      rw [hWhat, Option.some.inj hToken]
    · cases hToken
  refine ⟨front, back, hPattern, hOffset, ?_⟩
  simpa using hResumes [c] (Or.inr ⟨c, hProblem, rfl⟩)

example : ∃ e, parse "\x7bn, plural, , other \x7bx\x7d\x7d" = .error e ∧
    e.expected = some (.token '\x7b') ∧ e.found = .character ',' := by
  unfold parse
  simp only [String.reduceToList]
  exact ⟨_, rfl, rfl, rfl⟩

end LocaleMessage.Pattern
