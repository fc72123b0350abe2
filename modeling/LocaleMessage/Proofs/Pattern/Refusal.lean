import LocaleMessage.Proofs.Pattern.Locality
import LocaleMessage.Proofs.Pattern.Stopping

/-! How patterns are refused. Beside the grammar that derives messages stands one that derives
failures: what has been derived up to the place where no rule goes on, what was waited for there,
and what is left. Patterns are refused exactly as it says. -/
namespace LocaleMessage.Pattern

open Reader

/-- What comes next is neither blank nor one of the characters that may stand here. The end of the
pattern is missed like any other character. -/
def Misses (expected : List Char) (rest : List Char) : Prop :=
  Ends isBlank rest ∧ ∀ c ∈ expected, rest.head? ≠ some c

/-- The head of an argument with a keyword, from its brace to the blanks behind the keyword. What
follows decides whether the argument goes on. -/
inductive ArgumentHead (id : String) (k : Keyword) : List Char → Prop where
  | mk {head keyword : List Char} (hId : IsName isIdChar id) (hHead : Padded id head)
      (hKeyword : Padded k.text keyword) : ArgumentHead id k ('\x7b' :: (head ++ ',' :: keyword))

/-- The scope of the branches of a clause that stands in `scope`. -/
def Clause.branchScope (scope : Scope) (clause : Clause) : Scope :=
  if clause = .select then scope.ofSelect else .plural

/-- What stands before the branches of a clause: the offset of a plural, and nothing in a select. So
both are refused by the same rules behind it. -/
inductive DerivesOpening : Clause → List Char → UInt32 → List Char → Prop where
  | plural {clause : Clause} {input rest : List Char} {offset : UInt32}
      (hClause : clause ≠ .select) (hOffset : DerivesOffset input offset rest) :
      DerivesOpening clause input offset rest
  | select {rest : List Char} : DerivesOpening .select rest 0 rest

/-- Why a clause cannot be closed behind its branches. Of several reasons the first one here is
told. -/
inductive Unfinished (clause : Clause) : List (Branch Message) → List Char → Problem → Prop where
  | empty {rest : List Char} : Unfinished clause [] rest (.expected (.branches clause))
  | missingOther {branches : List (Branch Message)} {rest : List Char} (hNonempty : branches ≠ [])
      (hOther : ∀ branch ∈ branches, branch.selector ≠ "other") :
      Unfinished clause branches rest (.missingOther clause)
  /-- The pattern ends before the brace. -/
  | unclosed {branches : List (Branch Message)}
      (hOther : ∃ branch ∈ branches, branch.selector = "other") :
      Unfinished clause branches [] (.expected (.token '\x7d'))

mutual

/-- Where no message goes on. What stands in front of the place is derived by the grammar of
patterns. -/
inductive RefusesMessage : Scope → List Char → Failure → Prop where
  /-- A brace closes what has not been opened. -/
  | unopened {input middle text rest : List Char} {elements : Message}
      (hArguments : DerivesArguments .root input elements middle)
      (hText : MaximalText .root middle text ('\x7d' :: rest)) :
      RefusesMessage .root input ⟨.unexpected, '\x7d' :: rest⟩
  | argument {scope : Scope} {input middle text next : List Char} {elements : Message}
      {failure : Failure} (hArguments : DerivesArguments scope input elements middle)
      (hText : MaximalText scope middle text next)
      (hArgument : RefusesArgument scope next failure) : RefusesMessage scope input failure

/-- Where no argument goes on, with a rule for each of its parts. A rule says what has been derived,
what was waited for and what is left. -/
inductive RefusesArgument : Scope → List Char → Failure → Prop where
  | noId {scope : Scope} {before rest : List Char} (hBefore : Blanks before)
      (hBlank : Ends isBlank rest) (hChar : Ends isIdChar rest) :
      RefusesArgument scope ('\x7b' :: (before ++ rest)) ⟨.expected .argumentId, rest⟩
  /-- A brace or a number sign in a name. -/
  | brokenId {scope : Scope} {before name rest : List Char} (hBefore : Blanks before)
      (hName : ∀ c ∈ name, isIdChar c = true)
      (hBreak : rest.head? = some '\x7b' ∨ rest.head? = some '#') :
      RefusesArgument scope ('\x7b' :: (before ++ (name ++ rest))) ⟨.expected .argumentId, rest⟩
  /-- Without a blank behind it a name goes on as far as the pattern. -/
  | afterId {scope : Scope} {id : String} {before after rest : List Char}
      (hId : IsName isIdChar id) (hBefore : Blanks before) (hAfter : Blanks after)
      (hEnd : after = [] → rest = []) (hNext : Misses [',', '\x7d'] rest) :
      RefusesArgument scope ('\x7b' :: (before ++ (id.toList ++ (after ++ rest))))
        ⟨.expected (.token ','), rest⟩
  | noKeyword {scope : Scope} {id : String} {head before rest : List Char}
      (hId : IsName isIdChar id) (hHead : Padded id head) (hBefore : Blanks before)
      (hNext : Ends isBlank rest) (hNone : Keyword.leading? rest = none) :
      RefusesArgument scope ('\x7b' :: (head ++ ',' :: (before ++ rest)))
        ⟨.expected .keyword, rest⟩
  | afterKeyword {scope : Scope} {id : String} {k : Keyword} {head before after rest : List Char}
      (hId : IsName isIdChar id) (hHead : Padded id head) (hBefore : Blanks before)
      (hAfter : Blanks after)
      (hLeading : Keyword.leading? (k.text.toList ++ (after ++ rest)) = some k)
      (hNext : Misses [',', '\x7d'] rest) :
      RefusesArgument scope
        ('\x7b' :: (head ++ ',' :: (before ++ (k.text.toList ++ (after ++ rest)))))
        ⟨.expected (.token ','), rest⟩
  | noStyle {scope : Scope} {id : String} {f : Format} {start before rest : List Char}
      (hStart : ArgumentHead id (.format f) start) (hBefore : Blanks before)
      (hNext : Ends isBlank rest) (hStops : StopsText .style rest) :
      RefusesArgument scope (start ++ ',' :: (before ++ rest)) ⟨.expected .styleName, rest⟩
  | afterStyle {scope : Scope} {id : String} {f : Format}
      {start before input style after rest : List Char}
      (hStart : ArgumentHead id (.format f) start) (hBefore : Blanks before)
      (hStyle : MaximalText .style input style (after ++ rest)) (hNonempty : style ≠ [])
      (hAfter : Blanks after) (hNext : Misses ['\x7d'] rest) :
      RefusesArgument scope (start ++ ',' :: (before ++ input)) ⟨.expected (.token '\x7d'), rest⟩
  | noBranches {scope : Scope} {id : String} {clause : Clause} {start rest : List Char}
      (hStart : ArgumentHead id (.clause clause) start) :
      RefusesArgument scope (start ++ '\x7d' :: rest)
        ⟨.expected (.branches clause), '\x7d' :: rest⟩
  | noOffset {scope : Scope} {id : String} {clause : Clause} {start before inner rest : List Char}
      (hStart : ArgumentHead id (.clause clause) start) (hClause : clause ≠ .select)
      (hBefore : Blanks before) (hInner : Blanks inner) (hNext : Ends isBlank rest)
      (hNumber : NoOffset rest) :
      RefusesArgument scope (start ++ ',' :: (before ++ ("offset:".toList ++ (inner ++ rest))))
        ⟨.expected .offsetNumber, rest⟩
  | branches {scope : Scope} {id : String} {clause : Clause} {offset : UInt32}
      {start before input middle : List Char} {failure : Failure}
      (hStart : ArgumentHead id (.clause clause) start) (hBefore : Blanks before)
      (hOpening : DerivesOpening clause input offset middle)
      (hBranches : RefusesBranches (clause.branchScope scope) middle failure) :
      RefusesArgument scope (start ++ ',' :: (before ++ input)) failure
  | unfinished {scope : Scope} {id : String} {clause : Clause} {offset : UInt32}
      {start before input middle rest : List Char} {branches : List (Branch Message)}
      {problem : Problem} (hStart : ArgumentHead id (.clause clause) start)
      (hBefore : Blanks before) (hOpening : DerivesOpening clause input offset middle)
      (hBranches : DerivesBranches (clause.branchScope scope) middle branches rest)
      (hEnd : rest = [] ∨ rest.head? = some '\x7d')
      (hProblem : Unfinished clause branches rest problem) :
      RefusesArgument scope (start ++ ',' :: (before ++ input)) ⟨problem, rest⟩

/-- Where no branch goes on. The branches in front of the place are derived, and are merged only
when their clause is closed. -/
inductive RefusesBranches : Scope → List Char → Failure → Prop where
  /-- A comma where a selector might begin, for which a brace is said to be missing. -/
  | comma {scope : Scope} {input rest : List Char} {branches : List (Branch Message)}
      (hBranches : DerivesBranches scope input branches rest) (hComma : rest.head? = some ',') :
      RefusesBranches scope input ⟨.expected (.token '\x7b'), rest⟩
  | noSelector {scope : Scope} {input rest : List Char} {branches : List (Branch Message)}
      (hBranches : DerivesBranches scope input branches rest) (hBrace : rest.head? = some '\x7b') :
      RefusesBranches scope input ⟨.expected .selector, rest⟩
  | brokenSelector {scope : Scope} {name : String} {input rest : List Char}
      {branches : List (Branch Message)}
      (hBranches : DerivesBranches scope input branches (name.toList ++ rest))
      (hName : IsName isSelectorChar name)
      (hBreak : rest.head? = some '\x7d' ∨ rest.head? = some ',') :
      RefusesBranches scope input ⟨.expected (.token '\x7b'), rest⟩
  | afterSelector {scope : Scope} {name : String} {input between rest : List Char}
      {branches : List (Branch Message)}
      (hBranches : DerivesBranches scope input branches (name.toList ++ (between ++ rest)))
      (hName : IsName isSelectorChar name) (hBetween : Blanks between)
      (hEnd : between = [] → rest = []) (hNext : Misses ['\x7b'] rest) :
      RefusesBranches scope input ⟨.expected (.token '\x7b'), rest⟩
  | message {scope : Scope} {name : String} {input between start : List Char}
      {branches : List (Branch Message)} {failure : Failure}
      (hBranches : DerivesBranches scope input branches
        (name.toList ++ (between ++ '\x7b' :: start)))
      (hName : IsName isSelectorChar name) (hBetween : Blanks between)
      (hMessage : RefusesMessage scope start failure) : RefusesBranches scope input failure
  /-- The pattern ends in a message. -/
  | unclosed {scope : Scope} {name : String} {input between start : List Char}
      {branches : List (Branch Message)} {message : Message}
      (hBranches : DerivesBranches scope input branches
        (name.toList ++ (between ++ '\x7b' :: start)))
      (hName : IsName isSelectorChar name) (hBetween : Blanks between)
      (hMessage : DerivesMessage scope start message []) :
      RefusesBranches scope input ⟨.expected (.token '\x7d'), []⟩

end

variable {scope : Scope} {input rest : List Char} {failure : Failure}

theorem branchScope_ne_style (scope : Scope) (clause : Clause) :
    clause.branchScope scope ≠ .style := by
  unfold Clause.branchScope
  split
  · exact ofSelect_ne_style scope
  · decide

theorem branchScope_ne_root (scope : Scope) (clause : Clause) :
    clause.branchScope scope ≠ .root := by
  unfold Clause.branchScope
  split
  · exact ofSelect_ne_root scope
  · decide

/-- What stands before branches is the same in front of anything that keeps an offset. In a select
nothing stands there. -/
theorem DerivesOpening.exists_written {clause : Clause} {offset : UInt32}
    (h : DerivesOpening clause input offset rest) : ∃ written, input = written ++ rest ∧
      ∀ rest', KeepsOffset rest rest' → DerivesOpening clause (written ++ rest') offset rest' := by
  cases h with
  | plural hClause hOffset =>
      obtain ⟨written, rfl, hWritten⟩ := hOffset.exists_written
      exact ⟨written, rfl, fun rest' hKeeps => .plural hClause (hWritten rest' hKeeps)⟩
  | select => exact ⟨[], rfl, fun _ _ => .select⟩

/-- Behind arguments a message is refused as if it began there. The failure is the same, because it
says only what is left. -/
theorem RefusesMessage.append {elements : Message} {middle : List Char}
    (h : DerivesArguments scope input elements middle)
    (hRefused : RefusesMessage scope middle failure) : RefusesMessage scope input failure := by
  cases hRefused with
  | unopened hArguments hLast => exact .unopened (h.append hArguments) hLast
  | argument hArguments hLast hArgument => exact .argument (h.append hArguments) hLast hArgument

/-- Branches may be refused behind one more branch, with the same failure. -/
theorem RefusesBranches.cons {name : String} {message : Message}
    {between start after next : List Char} (hName : IsName isSelectorChar name)
    (hBetween : Blanks between)
    (hMessage : DerivesMessage scope start message ('\x7d' :: (after ++ next)))
    (hAfter : Blanks after) (h : RefusesBranches scope next failure) :
    RefusesBranches scope (name.toList ++ (between ++ '\x7b' :: start)) failure := by
  cases h with
  | comma hBranches hComma => exact .comma (.cons hName hBetween hMessage hAfter hBranches) hComma
  | noSelector hBranches hBrace =>
      exact .noSelector (.cons hName hBetween hMessage hAfter hBranches) hBrace
  | brokenSelector hBranches hSelector hBreak =>
      exact .brokenSelector (.cons hName hBetween hMessage hAfter hBranches) hSelector hBreak
  | afterSelector hBranches hSelector hBlanks hEnd hNext =>
      exact .afterSelector (.cons hName hBetween hMessage hAfter hBranches) hSelector hBlanks hEnd
        hNext
  | message hBranches hSelector hBlanks hInner =>
      exact .message (.cons hName hBetween hMessage hAfter hBranches) hSelector hBlanks hInner
  | unclosed hBranches hSelector hBlanks hInner =>
      exact .unclosed (.cons hName hBetween hMessage hAfter hBranches) hSelector hBlanks hInner

theorem DerivesBranches.ends_of_rest {branches : List (Branch Message)}
    (h : DerivesBranches scope input branches rest) (hRest : Ends isBlank rest) :
    Ends isBlank input := by
  cases h with
  | nil => exact hRest
  | cons hName => exact hName.ends_append isBlank_of_isSelectorChar _

/-- Refused branches have no blanks in front. The reader of branches skips blanks before each
selector. -/
theorem RefusesBranches.ends (h : RefusesBranches scope input failure) : Ends isBlank input := by
  cases h with
  | comma hBranches hComma => exact hBranches.ends_of_rest (ends_of_head? hComma (by decide))
  | noSelector hBranches hBrace => exact hBranches.ends_of_rest (ends_of_head? hBrace (by decide))
  | brokenSelector hBranches hName | afterSelector hBranches hName | message hBranches hName
  | unclosed hBranches hName =>
      exact hBranches.ends_of_rest (hName.ends_append isBlank_of_isSelectorChar _)

theorem RefusesArgument.head (h : RefusesArgument scope input failure) :
    ∃ others, input = '\x7b' :: others := by
  cases h with
  | noId | brokenId | afterId | noKeyword | afterKeyword => exact ⟨_, rfl⟩
  | noStyle hStart | afterStyle hStart | noBranches hStart | noOffset hStart | branches hStart
  | unfinished hStart =>
      obtain ⟨_, _, _⟩ := hStart
      exact ⟨_, rfl⟩

theorem RefusesArgument.ne_nil (h : RefusesArgument scope input failure) : input ≠ [] := by
  obtain ⟨others, rfl⟩ := h.head
  simp

theorem RefusesArgument.stopsText (h : RefusesArgument scope input failure) :
    StopsText scope input := by
  obtain ⟨others, rfl⟩ := h.head
  rintro c ⟨⟩
  simp [Scope.isSpecial]

end LocaleMessage.Pattern
