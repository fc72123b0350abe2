import LocaleMessage.Pattern.Parser
import LocaleMessage.Proofs.Pattern.Reading
import LocaleMessage.Proofs.Text.Position

/-! Where reading stops. A reader takes characters from the front only, so what it leaves, also when
it fails, is an end of the pattern, and the failure has a place there. -/
namespace LocaleMessage.Pattern

open Reader

namespace Reader

variable {α β : Type}

/-- What the reader leaves is an end of what it was given, whether it succeeds or fails. -/
def ReadsForward (x : Reader α) : Prop := ∀ input,
  match x input with
  | .ok (_, rest) => rest <:+ input
  | .error failure => failure.rest <:+ input

namespace ReadsForward

protected theorem pure (a : α) : ReadsForward (pure a) :=
  List.suffix_refl

/-- Readers one behind the other read forward, each on what the one before has left. -/
protected theorem bind {x : Reader α} {f : α → Reader β} (hx : ReadsForward x)
    (hf : ∀ a, ReadsForward (f a)) : ReadsForward (x >>= f) := by
  intro input
  have hFirst := hx input
  change match (x input >>= fun read => f read.1 read.2 : Except Failure (β × List Char)) with
    | .ok (_, rest) => rest <:+ input
    | .error failure => failure.rest <:+ input
  cases hRead : x input with
  | error failure =>
      rw [hRead] at hFirst
      exact hFirst
  | ok read =>
      obtain ⟨a, middle⟩ := read
      rw [hRead] at hFirst
      have hSecond := hf a middle
      change match f a middle with
        | .ok (_, rest) => rest <:+ input
        | .error failure => failure.rest <:+ input
      split at hSecond <;> exact hSecond.trans hFirst

/-- Which of two readers is taken may depend on anything. -/
protected theorem ite {p : Prop} [Decidable p] {x y : Reader α} (hx : ReadsForward x)
    (hy : ReadsForward y) : ReadsForward (if p then x else y) := by
  split
  · exact hx
  · exact hy

end ReadsForward

theorem readsForward_fail (problem : Problem) : ReadsForward (fail problem : Reader α) :=
  List.suffix_refl

theorem readsForward_peek : ReadsForward peek :=
  List.suffix_refl

theorem readsForward_skipBlanks : ReadsForward skipBlanks :=
  fun _ => List.dropWhile_suffix _

theorem readsForward_charsWhile (p : Char → Bool) : ReadsForward (charsWhile p) :=
  fun _ => List.dropWhile_suffix _

theorem readsForward_text (scope : Scope) : ReadsForward (Reader.text scope) := by
  intro input
  have hRun : TextRun scope input (readText scope input).1 (readText scope input).2 :=
    (readText_eq_iff.mp rfl).1
  exact hRun.suffix

/-- Whether the character was there or not, what is left is an end of the input. Only in the first
case is it a shorter one. -/
theorem readsForward_accept (c : Char) : ReadsForward (accept c) := by
  intro input
  cases input with
  | nil => exact List.suffix_refl []
  | cons d others =>
      by_cases hd : d = c
      · simp [accept, hd]
      · simp [accept, hd]

theorem readsForward_expect (c : Char) : ReadsForward (expect c) := by
  intro input
  cases input with
  | nil => exact List.suffix_refl []
  | cons d others =>
      by_cases hd : d = c
      · simp [expect, hd]
      · simp [expect, hd]

theorem readsForward_argumentId : ReadsForward argumentId := by
  refine .bind readsForward_skipBlanks fun _ => .bind (readsForward_charsWhile _) fun id =>
    .bind readsForward_peek fun next => .ite (readsForward_fail _) ?_
  exact .bind readsForward_skipBlanks fun _ => .pure _

/-- A keyword that is found is a beginning of what is left, so taking it off leaves an end. -/
theorem readsForward_keyword : ReadsForward keyword := by
  refine .bind readsForward_skipBlanks fun _ => .bind (fun input => ?_) fun k =>
    .bind readsForward_skipBlanks fun _ => .pure _
  cases Keyword.leading? input with
  | none => exact List.suffix_refl input
  | some k => exact List.drop_suffix k.text.length input

theorem readsForward_styleName : ReadsForward styleName := by
  refine .bind readsForward_skipBlanks fun _ => .bind (readsForward_text _) fun style =>
    .ite (readsForward_fail _) ?_
  exact .bind readsForward_skipBlanks fun _ => .pure _

/-- The digits are an end of the input both where they are taken and where they are refused. -/
theorem readsForward_offsetNumber : ReadsForward offsetNumber := by
  intro input
  simp only [offsetNumber]
  by_cases hRefused : ((input.takeWhile Char.isDigit).isEmpty ||
      decide (UInt32.size ≤ digitsValue (input.takeWhile Char.isDigit))) = true
  · simp only [if_pos hRefused, List.suffix_refl]
  · rw [if_neg hRefused]
    exact List.dropWhile_suffix _

/-- The word that announces an offset is taken off only where it stands. Without it blanks are
skipped at most. -/
theorem readsForward_pluralOffset : ReadsForward pluralOffset := by
  refine .bind readsForward_skipBlanks fun _ => .bind (fun input => ?_) fun given =>
    .ite ?_ (.pure _)
  · by_cases hGiven : "offset:".toList.isPrefixOf input = true
    · rw [if_pos hGiven]
      exact List.drop_suffix _ input
    · simp only [if_neg hGiven, List.suffix_refl]
  · exact .bind readsForward_skipBlanks fun _ => .bind readsForward_offsetNumber fun _ =>
      .bind readsForward_skipBlanks fun _ => .pure _

theorem readsForward_formatted (id : String) (format : Format) :
    ReadsForward (formatted id format) := by
  refine .bind (readsForward_accept _) fun closed => .ite (.pure _) ?_
  exact .bind (readsForward_expect _) fun _ => .bind readsForward_styleName fun style =>
    .bind (readsForward_expect _) fun _ => .pure _

theorem readsForward_selector : ReadsForward selector := by
  refine .bind (readsForward_charsWhile _) fun name => .bind readsForward_peek fun next =>
    .ite (readsForward_fail _) (.ite (readsForward_fail _) ?_)
  exact .bind readsForward_skipBlanks fun _ => .pure _

end Reader

theorem readsForward_closeClause (id : String) (offset : UInt32) (options : List (Branch Message))
    (clause : Clause) : ReadsForward (closeClause id offset options clause) :=
  .ite (readsForward_fail _) (.ite (readsForward_fail _)
    (.bind (readsForward_expect _) fun _ => .pure _))

/-- A clause reads forward if its branches do. The branches are a parameter here, so the readers
that call each other can be proved together afterwards. -/
theorem readsForward_readClause {branches : Scope → Reader (List (Branch Message))}
    (hBranches : ∀ scope, ReadsForward (branches scope)) (scope : Scope) (id : String)
    (clause : Clause) : ReadsForward (readClause branches scope id clause) := by
  refine .bind readsForward_peek fun next => .ite (readsForward_fail _) ?_
  have hClose (offset : UInt32) : ReadsForward (do
      let options ← branches (if clause = .select then scope.ofSelect else .plural)
      closeClause id offset options clause) :=
    .bind (hBranches _) fun options => readsForward_closeClause id offset options clause
  exact .bind (readsForward_expect _) fun _ =>
    .ite (.bind (.pure _) hClose) (.bind readsForward_pluralOffset hClose)

/-- The readers that call each other read forward with any bound, by induction on it. At the bound
zero they fail, and a failure leaves its input. -/
theorem readsForward_of_bound (bound : Nat) :
    (∀ scope, ReadsForward (readMessage bound scope)) ∧
      (∀ scope, ReadsForward (readArgument bound scope)) ∧
      ∀ scope read, ReadsForward (readBranches bound scope read) := by
  induction bound with
  | zero =>
      refine ⟨fun scope => ?_, fun scope => ?_, fun scope read => ?_⟩
      · exact readsForward_fail _
      · exact readsForward_fail _
      · exact readsForward_fail _
  | succ bound ih =>
      obtain ⟨hMessage, hArgument, hBranches⟩ := ih
      refine ⟨fun scope => ?_, fun scope => ?_, fun scope read => ?_⟩
      · rw [readMessage]
        refine .bind (readsForward_text scope) fun text => .bind readsForward_peek fun next =>
          .ite (.pure _) (.ite (.ite (readsForward_fail _) (.pure _)) ?_)
        exact .bind (hArgument scope) fun element => .bind (hMessage scope) fun rest => .pure _
      · rw [readArgument]
        refine .bind (readsForward_accept _) fun sign => .ite (.pure _) ?_
        refine .bind (readsForward_accept _) fun _ => .bind readsForward_argumentId fun id =>
          .bind (readsForward_accept _) fun closed => .ite (.pure _) ?_
        refine .bind (readsForward_expect _) fun _ => .bind readsForward_keyword fun k => ?_
        cases k with
        | format format => exact readsForward_formatted id format
        | clause clause =>
            exact readsForward_readClause (fun scope => hBranches scope []) scope id clause
      · rw [readBranches]
        refine .bind readsForward_skipBlanks fun _ => .bind readsForward_peek fun next =>
          .ite (.pure _) ?_
        exact .bind readsForward_selector fun name => .bind (readsForward_expect _) fun _ =>
          .bind (hMessage scope) fun message => .bind (readsForward_expect _) fun _ =>
            hBranches scope _

/-- All line ends of two characters are replaced, and nothing else: the text falls into pieces that
have none of them, joined in the one way or in the other. -/
theorem exists_pieces (text : List Char) : ∃ pieces, pieces ≠ [] ∧
    (∀ piece ∈ pieces, ¬ ['\r', '\n'] <:+: piece) ∧ ['\r', '\n'].intercalate pieces = text ∧
    ['\n'].intercalate pieces = unifyLineEnds text := by
  fun_induction unifyLineEnds text with
  | case1 rest ih =>
      obtain ⟨pieces, hNonempty, hPieces, rfl, hUnified⟩ := ih
      refine ⟨[] :: pieces, List.cons_ne_nil _ _, ?_, ?_, ?_⟩
      · rw [List.forall_mem_cons]
        exact ⟨by simp, hPieces⟩
      · simp [List.intercalate_cons_of_ne_nil hNonempty]
      · simp [List.intercalate_cons_of_ne_nil hNonempty, hUnified]
  | case2 c rest hPlain ih =>
      obtain ⟨pieces, hNonempty, hPieces, rfl, hUnified⟩ := ih
      obtain ⟨first, others, rfl⟩ := List.exists_cons_of_ne_nil hNonempty
      rw [List.forall_mem_cons] at hPieces
      refine ⟨(c :: first) :: others, List.cons_ne_nil _ _, ?_, ?_, ?_⟩
      · rw [List.forall_mem_cons]
        refine ⟨fun hInfix => ?_, hPieces.2⟩
        rcases List.infix_cons_iff.mp hInfix with ⟨more, hStart⟩ | hInfix
        · obtain ⟨rfl, rfl⟩ : '\r' = c ∧ '\n' :: more = first := by simpa using hStart
          -- The line feed that follows would have been read with the carriage return.
          obtain ⟨following, hFollowing⟩ : ∃ following,
              ['\r', '\n'].intercalate (('\n' :: more) :: others) = '\n' :: following := by
            cases others <;> simp
          exact hPlain following rfl hFollowing
        · exact hPieces.1 hInfix
      · cases others <;> simp
      · rw [← hUnified]
        cases others <;> simp
  | case3 => exact ⟨[[]], by simp⟩

/-- A failure is placed behind what has been read, however much is left. -/
theorem locate_position {pattern consumed : List Char} {failure : Failure}
    (hSplit : consumed ++ failure.rest = pattern) :
    (failure.locate pattern).position = .after consumed := by
  simp [Failure.locate, ← hSplit]

/-- Where a pattern is refused, a part of it has been read and the rest is left. What is said of
failures can so be said of errors. -/
theorem exists_failure_of_parse {pattern : String} {e : SyntaxError} (h : parse pattern = .error e) :
    ∃ (failure : Failure) (consumed : List Char), consumed ++ failure.rest = pattern.toList ∧
      failure.locate pattern.toList = e := by
  have hForward := (readsForward_of_bound (pattern.toList.length + 1)).1 .root pattern.toList
  rw [parse, parseChars, StateT.run] at h
  cases hRead : readMessage (pattern.toList.length + 1) .root pattern.toList with
  | ok read => simp [hRead] at h
  | error failure =>
      rw [hRead] at h hForward
      obtain ⟨consumed, hSplit⟩ := hForward
      exact ⟨failure, consumed, hSplit, Except.error.inj h⟩

/-- What an error says is so of the pattern. Each field is about the text of the pattern, and none
about how it was read. -/
structure SyntaxError.Describes (e : SyntaxError) (pattern : String) : Prop where
  offset_le : e.position.offset ≤ pattern.utf8ByteSize
  /-- No character is cut in two. -/
  isValid : String.Pos.Raw.IsValid pattern ⟨e.position.offset⟩
  found_end : e.position.offset = pattern.utf8ByteSize → e.found.text = "end of input"
  found_character : e.position.offset ≠ pattern.utf8ByteSize →
    ∃ c, String.Pos.Raw.get? pattern ⟨e.position.offset⟩ = some c ∧ e.found.text = c.toString
  isIn : e.position.IsIn pattern.toList
  /-- Of all places in the pattern, this is the one with the offset, and the one with the line and
  the column. -/
  offset_eq_iff (p : Text.Position) : p.IsIn pattern.toList →
    (p.offset = e.position.offset ↔ p.line = e.position.line ∧ p.column = e.position.column)
  description_eq :
    (∃ what, e.expected = some what ∧ e.description =
      "expected \"" ++ what.text ++ "\" but found \"" ++ e.found.text ++ "\"") ∨
    e.expected = none ∧ (e.description = "unexpected \"" ++ e.found.text ++ "\" found" ∨
      ∃ clause : Clause, e.description = "\"other\" option must be specified in " ++ clause.text)
  /-- The message has the pattern with its line ends of two characters written as one. -/
  message_eq : ∃ pieces, (∀ piece ∈ pieces, ¬ ['\r', '\n'] <:+: piece) ∧
    ['\r', '\n'].intercalate pieces = pattern.toList ∧
    e.message = e.description ++ " in \"" ++ String.ofList (['\n'].intercalate pieces) ++ "\""

/-- A failure is told as it is, whatever part of the pattern has been read. Which problem it was
plays no part. -/
theorem describes_locate {pattern : String} {consumed : List Char} {failure : Failure}
    (hSplit : consumed ++ failure.rest = pattern.toList) :
    (failure.locate pattern.toList).Describes pattern := by
  have hPosition := locate_position hSplit
  have hIn : (Text.Position.after consumed).IsIn pattern.toList :=
    Text.isIn_iff.mpr ⟨consumed, ⟨failure.rest, hSplit⟩, rfl⟩
  have hEnd := Text.offset_after_eq_iff hSplit.symm
  have hNext := Text.get?_after hSplit.symm
  rw [← hPosition] at hIn hEnd hNext
  have hValid := Text.isValid_of_isIn hIn
  refine ⟨?_, hValid, fun hOffset => ?_, fun hOffset => ?_, hIn, fun p hp => hp.offset_eq_iff hIn,
    ?_, ?_⟩
  · exact hValid.le_rawEndPos
  · simp [Failure.locate, hEnd.mp hOffset, Found.first, Found.text]
  · obtain ⟨c, others, hRest⟩ := List.exists_cons_of_ne_nil (hOffset ∘ hEnd.mpr)
    refine ⟨c, ?_, ?_⟩
    · rw [hNext, hRest, List.head?_cons]
    · simp [Failure.locate, hRest, Found.first, Found.text]
  · rw [SyntaxError.expected, SyntaxError.description]
    have hProblem : (failure.locate pattern.toList).problem = failure.problem := rfl
    rw [hProblem]
    cases failure.problem with
    | expected what => exact Or.inl ⟨what, rfl, rfl⟩
    | unexpected => exact Or.inr ⟨rfl, Or.inl rfl⟩
    | missingOther clause => exact Or.inr ⟨rfl, Or.inr ⟨clause, rfl⟩⟩
  · obtain ⟨pieces, _, hPieces, hPattern, hUnified⟩ := exists_pieces pattern.toList
    refine ⟨pieces, hPieces, hPattern, ?_⟩
    have hKept : (failure.locate pattern.toList).pattern.toList = pattern.toList :=
      String.toList_ofList
    rw [SyntaxError.message, hKept, hUnified]

/-- An error tells of a place in the pattern that was refused. This is so of all errors, those at
the end of the pattern included. -/
theorem describes_of_parse {pattern : String} {e : SyntaxError} (h : parse pattern = .error e) :
    e.Describes pattern := by
  obtain ⟨failure, consumed, hSplit, rfl⟩ := exists_failure_of_parse h
  exact describes_locate hSplit

/-- The second line ends behind the name, and a blank comes before what was not waited for. -/
theorem describes_of_parse_lines : ∃ e, parse "hé\r\n\x7ba\r\n b\x7d" = .error e ∧
    e.position = ⟨10, 3, 2⟩ ∧ e.Describes "hé\r\n\x7ba\r\n b\x7d" := by
  have hParse : ∃ e, parse "hé\r\n\x7ba\r\n b\x7d" = .error e ∧ e.position = ⟨10, 3, 2⟩ := by
    unfold parse
    simp only [String.reduceToList]
    exact ⟨_, rfl, rfl⟩
  obtain ⟨e, hError, hPosition⟩ := hParse
  exact ⟨e, hError, hPosition, describes_of_parse hError⟩

end LocaleMessage.Pattern
