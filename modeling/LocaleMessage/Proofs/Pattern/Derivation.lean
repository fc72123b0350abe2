import LocaleMessage.Proofs.Pattern.Reading

/-! Patterns are read exactly as the grammar derives them: what is read has a derivation, and what
has a derivation is read, with a bound that is never used up. -/
namespace LocaleMessage.Pattern

open Reader

variable {scope : Scope} {bound : Nat} {input rest : List Char}

/-- Where a message may stop. Only at the top there is no brace that could close it, so a closing
brace there is refused and does not end the message. -/
def EndsMessage (scope : Scope) (rest : List Char) : Prop :=
  rest = [] ∨ scope ≠ .root ∧ rest.head? = some '\x7d'

/-- The parser turns text into elements as the grammar does. The empty text is no element in either
of them. -/
theorem literal_eq_textElements (text : List Char) : literal text = textElements text := by
  cases text with
  | nil => rfl
  | cons c others => rfl

/-- One step of reading a message: all text that stands here, and then the end or an argument. The
bound goes down by one for what is read behind the text. -/
theorem readMessage_eq_ok {message : Message} :
    readMessage (bound + 1) scope input = .ok (message, rest) ↔
      ∃ text next, MaximalText scope input text next ∧
        (EndsMessage scope next ∧ message = textElements text ∧ rest = next ∨
          (next ≠ [] ∧ next.head? ≠ some '\x7d') ∧ ∃ element middle others,
            readArgument bound scope next = .ok (element, middle) ∧
            readMessage bound scope middle = .ok (others, rest) ∧
            message = textElements text ++ element :: others) := by
  rw [readMessage]
  simp only [bind_eq_ok, text_eq_ok, peek_eq_ok, literal_eq_textElements]
  constructor
  · rintro ⟨text, next, hText, _, _, ⟨rfl, rfl⟩, h⟩
    refine ⟨text, _, hText, ?_⟩
    split at h
    · rename_i hEnd
      exact Or.inl ⟨Or.inl (by simpa using hEnd), pure_eq_ok.mp h⟩
    · rename_i hEnd
      split at h
      · rename_i hBrace
        split at h
        · simp [fail_eq_ok] at h
        · rename_i hScope
          exact Or.inl ⟨Or.inr ⟨hScope, hBrace⟩, pure_eq_ok.mp h⟩
      · rename_i hBrace
        simp only [bind_eq_ok] at h
        obtain ⟨element, middle, hArgument, others, _, hOthers, h⟩ := h
        obtain ⟨rfl, rfl⟩ := pure_eq_ok.mp h
        exact Or.inr ⟨⟨by simpa using hEnd, hBrace⟩, element, middle, others, hArgument, hOthers, rfl⟩
  · rintro ⟨text, next, hText, h⟩
    refine ⟨text, next, hText, _, _, ⟨rfl, rfl⟩, ?_⟩
    rcases h with ⟨hEnds, rfl, rfl⟩ | ⟨⟨hEnd, hBrace⟩, element, middle, others, hArgument, hOthers, rfl⟩
    · rcases hEnds with rfl | ⟨hScope, hBrace⟩
      · rw [if_pos List.head?_nil]
        exact pure_eq_ok.mpr ⟨rfl, rfl⟩
      · rw [if_neg (by simp [hBrace]), if_pos hBrace, if_neg hScope]
        exact pure_eq_ok.mpr ⟨rfl, rfl⟩
    · rw [if_neg (by simpa using hEnd), if_neg hBrace]
      simp only [bind_eq_ok]
      exact ⟨element, middle, hArgument, others, rest, hOthers, pure_eq_ok.mpr ⟨rfl, rfl⟩⟩

/-- A number sign is an argument by itself. The scope is not asked again, because elsewhere the sign
is text and no argument is read there. -/
theorem readArgument_pound :
    readArgument (bound + 1) scope ('#' :: rest) = .ok (.pound, rest) := by
  rw [readArgument]
  exact bind_eq_ok.mpr ⟨true, rest, accept_eq_ok.mpr (Or.inl ⟨rfl, rfl⟩), rfl⟩

/-- One step of reading an argument behind its brace. The name comes first, and then a closing brace
or a comma with a keyword decides what is read. -/
theorem readArgument_eq_ok {element : Element} :
    readArgument (bound + 1) scope ('\x7b' :: input) = .ok (element, rest) ↔
      ∃ id next, argumentId input = .ok (id, next) ∧
        (next = '\x7d' :: rest ∧ element = .argument id ∨
          ∃ start k middle, next = ',' :: start ∧ keyword start = .ok (k, middle) ∧
            match k with
            | .format f => formatted id f middle = .ok (element, rest)
            | .clause clause =>
              readClause (fun scope => readBranches bound scope []) scope id clause middle =
                .ok (element, rest)) := by
  rw [readArgument]
  simp only [bind_eq_ok, accept_eq_ok]
  constructor
  · rintro ⟨_, _, ⟨rfl, hPound⟩ | ⟨rfl, _, rfl⟩, h⟩
    · simp at hPound
    · simp only [Bool.false_eq_true, if_false, bind_eq_ok, accept_eq_ok] at h
      obtain ⟨_, _, ⟨rfl, hBrace⟩ | ⟨rfl, hBrace, _⟩, id, next, hId, _, _, hNext, h⟩ := h
      · obtain rfl : input = _ := (List.cons.inj hBrace).2
        refine ⟨id, next, hId, ?_⟩
        rcases hNext with ⟨rfl, rfl⟩ | ⟨rfl, _, rfl⟩
        · obtain ⟨rfl, rfl⟩ := pure_eq_ok.mp h
          exact Or.inl ⟨rfl, rfl⟩
        · simp only [Bool.false_eq_true, if_false, bind_eq_ok, expect_eq_ok] at h
          obtain ⟨_, start, rfl, k, middle, hKeyword, h⟩ := h
          refine Or.inr ⟨start, k, middle, rfl, hKeyword, ?_⟩
          cases k <;> exact h
      · simp at hBrace
  · rintro ⟨id, next, hId, h⟩
    refine ⟨false, _, Or.inr ⟨rfl, by simp, rfl⟩, ?_⟩
    simp only [Bool.false_eq_true, if_false, bind_eq_ok, accept_eq_ok]
    refine ⟨true, input, Or.inl ⟨rfl, rfl⟩, id, next, hId, ?_⟩
    rcases h with ⟨rfl, rfl⟩ | ⟨start, k, middle, rfl, hKeyword, h⟩
    · exact ⟨true, rest, Or.inl ⟨rfl, rfl⟩, pure_eq_ok.mpr ⟨rfl, rfl⟩⟩
    · refine ⟨false, _, Or.inr ⟨rfl, by simp, rfl⟩, ?_⟩
      simp only [Bool.false_eq_true, if_false, bind_eq_ok, expect_eq_ok]
      refine ⟨(), start, rfl, k, middle, hKeyword, ?_⟩
      cases k <;> exact h

/-- A clause can be closed once it has a branch for the other cases; this also means that it has
branches at all. -/
theorem closeClause_eq_ok {id : String} {offset : UInt32} {options : List (Branch Message)}
    {clause : Clause} {element : Element} :
    closeClause id offset options clause input = .ok (element, rest) ↔
      input = '\x7d' :: rest ∧ (∃ branch ∈ options, branch.selector = "other") ∧
        element = clause.element id offset options := by
  rw [closeClause]
  constructor
  · intro h
    split at h
    · simp [fail_eq_ok] at h
    · split at h
      · simp [fail_eq_ok] at h
      · rename_i hOther
        simp only [bind_eq_ok, expect_eq_ok] at h
        obtain ⟨_, _, rfl, h⟩ := h
        obtain ⟨rfl, rfl⟩ := pure_eq_ok.mp h
        exact ⟨rfl, by simpa using hOther, rfl⟩
  · rintro ⟨rfl, hOther, rfl⟩
    have hNonempty : options ≠ [] := by
      obtain ⟨branch, hMem, _⟩ := hOther
      exact List.ne_nil_of_mem hMem
    rw [if_neg (by simpa using hNonempty), if_neg (by simpa using hOther)]
    exact bind_eq_ok.mpr ⟨(), rest, expect_eq_ok.mpr rfl, pure_eq_ok.mpr ⟨rfl, rfl⟩⟩

/-- A clause is read as its comma, an offset where it may have one, its branches and the closing
brace. The reader of branches is a parameter, so this is said once for every bound. -/
theorem readClause_eq_ok {branches : Scope → Reader (List (Branch Message))} {id : String}
    {clause : Clause} {element : Element} :
    readClause branches scope id clause input = .ok (element, rest) ↔
      ∃ start offset next options, input = ',' :: start ∧
        (if clause = .select then offset = 0 ∧ next = start
          else pluralOffset start = .ok (offset, next)) ∧
        branches (if clause = .select then scope.ofSelect else .plural) next =
          .ok (options, '\x7d' :: rest) ∧
        (∃ branch ∈ options, branch.selector = "other") ∧
        element = clause.element id offset options := by
  simp only [readClause, bind_eq_ok, peek_eq_ok]
  constructor
  · rintro ⟨_, _, ⟨rfl, rfl⟩, h⟩
    split at h
    · simp [fail_eq_ok] at h
    · simp only [bind_eq_ok, expect_eq_ok] at h
      obtain ⟨_, start, rfl, h⟩ := h
      by_cases hClause : clause = .select
      · simp only [if_pos hClause, bind_eq_ok, closeClause_eq_ok] at h ⊢
        obtain ⟨offset, next, hOffset, options, _, hOptions, rfl, hOther, hElement⟩ := h
        exact ⟨start, offset, next, options, rfl, pure_eq_ok.mp hOffset, hOptions, hOther, hElement⟩
      · simp only [if_neg hClause, bind_eq_ok, closeClause_eq_ok] at h ⊢
        obtain ⟨offset, next, hOffset, options, _, hOptions, rfl, hOther, hElement⟩ := h
        exact ⟨start, offset, next, options, rfl, hOffset, hOptions, hOther, hElement⟩
  · rintro ⟨start, offset, next, options, rfl, hOffset, hOptions, hOther, hElement⟩
    refine ⟨_, _, ⟨rfl, rfl⟩, ?_⟩
    rw [if_neg (by simp)]
    simp only [bind_eq_ok, expect_eq_ok]
    refine ⟨(), start, rfl, ?_⟩
    by_cases hClause : clause = .select
    · simp only [if_pos hClause, bind_eq_ok, closeClause_eq_ok] at hOffset hOptions ⊢
      exact ⟨offset, next, pure_eq_ok.mpr hOffset, options, _, hOptions, rfl, hOther, hElement⟩
    · simp only [if_neg hClause, bind_eq_ok, closeClause_eq_ok] at hOffset hOptions ⊢
      exact ⟨offset, next, hOffset, options, _, hOptions, rfl, hOther, hElement⟩

/-- One step of reading branches into those that were read before. A selector that is already there
gets the new message in its old place. -/
theorem readBranches_eq_ok {read options : List (Branch Message)} :
    readBranches (bound + 1) scope read input = .ok (options, rest) ↔
      ∃ run next, (Blanks run ∧ input = run ++ next ∧ Ends isBlank next) ∧
        ((next = [] ∨ next.head? = some '\x7d') ∧ options = read ∧ rest = next ∨
          (next ≠ [] ∧ next.head? ≠ some '\x7d') ∧ ∃ name start message after,
            selector next = .ok (name, '\x7b' :: start) ∧
            readMessage bound scope start = .ok (message, '\x7d' :: after) ∧
            readBranches bound scope (Branch.put ⟨name, message⟩ read) after =
              .ok (options, rest)) := by
  rw [readBranches]
  simp only [bind_eq_ok, skipBlanks_eq_ok, peek_eq_ok]
  constructor
  · rintro ⟨_, next, ⟨run, hRun⟩, _, _, ⟨rfl, rfl⟩, h⟩
    refine ⟨run, _, hRun, ?_⟩
    split at h
    · rename_i hEnd
      exact Or.inl ⟨by simpa using hEnd, pure_eq_ok.mp h⟩
    · rename_i hEnd
      simp only [bind_eq_ok, expect_eq_ok] at h
      obtain ⟨name, _, hName, _, start, rfl, message, _, hMessage, _, after, rfl, h⟩ := h
      exact Or.inr ⟨by simpa using hEnd, name, start, message, after, hName, hMessage, h⟩
  · rintro ⟨run, next, hRun, h⟩
    refine ⟨(), next, ⟨run, hRun⟩, _, _, ⟨rfl, rfl⟩, ?_⟩
    rcases h with ⟨hEnd, rfl, rfl⟩ | ⟨hEnd, name, start, message, after, hName, hMessage, h⟩
    · rw [if_pos (by simpa using hEnd)]
      exact pure_eq_ok.mpr ⟨rfl, rfl⟩
    · rw [if_neg (by simpa using hEnd)]
      simp only [bind_eq_ok, expect_eq_ok]
      exact ⟨name, _, hName, (), start, rfl, message, _, hMessage, (), after, rfl, h⟩

theorem ofSelect_ne_style (scope : Scope) : scope.ofSelect ≠ .style := by
  cases scope <;> decide

theorem ofSelect_ne_root (scope : Scope) : scope.ofSelect ≠ .root := by
  cases scope <;> decide

/-- Where text stops and no message ends, an argument begins. The number sign is special below a
plural only. -/
theorem argument_head {c : Char} (hScope : scope ≠ .style) (hSpecial : scope.isSpecial c = true)
    (hBrace : c ≠ '\x7d') : c = '\x7b' ∨ c = '#' ∧ scope = .plural := by
  simpa [Scope.isSpecial, hScope, hBrace] using hSpecial

mutual

/-- What is read as a message is derived from what was taken, and reading stopped where a message
may stop. The three statements are proved together by induction on the bound. -/
theorem derivesMessage_of_read : (bound : Nat) → {scope : Scope} → {input rest : List Char} →
    {message : Message} → scope ≠ .style → readMessage bound scope input = .ok (message, rest) →
      DerivesMessage scope input message rest ∧ EndsMessage scope rest
  | 0, _, _, _, _, _, h => by simp [readMessage, fail] at h
  | bound + 1, scope, input, rest, message, hScope, h => by
      obtain ⟨text, next, hText, h⟩ := readMessage_eq_ok.mp h
      rcases h with ⟨hEnds, rfl, rfl⟩ | ⟨⟨hNonempty, hBrace⟩, element, middle, others, hArgument, hOthers, rfl⟩
      · exact ⟨.last hText, hEnds⟩
      · have hStops : StopsText scope next := (maximalText_iff.mp hText).2
        have hElement := derivesArgument_of_read bound hScope hStops hNonempty hBrace hArgument
        obtain ⟨hMessage, hEnds⟩ := derivesMessage_of_read bound hScope hOthers
        exact ⟨.cons hText hElement hMessage, hEnds⟩

/-- What is read as an argument is derived. It is only called for where text has stopped, so that no
character of text is mistaken for its beginning. -/
theorem derivesArgument_of_read : (bound : Nat) → {scope : Scope} → {input rest : List Char} →
    {element : Element} → scope ≠ .style → StopsText scope input → input ≠ [] →
      input.head? ≠ some '\x7d' → readArgument bound scope input = .ok (element, rest) →
      DerivesArgument scope input element rest
  | 0, _, _, _, _, _, _, _, _, h => by simp [readArgument, fail] at h
  | bound + 1, scope, input, rest, element, hScope, hStops, hNonempty, hBrace, h => by
      obtain ⟨c, others, rfl⟩ := List.exists_cons_of_ne_nil hNonempty
      rcases argument_head hScope (hStops c rfl) (by simpa using hBrace) with rfl | ⟨rfl, rfl⟩
      · obtain ⟨id, next, hName, hStep⟩ := readArgument_eq_ok.mp h
        rcases hStep with ⟨rfl, rfl⟩ | ⟨start, k, middle, rfl, hKeyword, hBody⟩
        · obtain ⟨hId, head, hHead, rfl⟩ := (argumentId_eq_ok (Or.inl rfl)).mp hName
          exact .plain hId hHead
        · obtain ⟨hId, head, hHead, rfl⟩ := (argumentId_eq_ok (Or.inr rfl)).mp hName
          cases k with
          | format f =>
              rcases formatted_eq_ok.mp hBody with ⟨rfl, rfl⟩ | ⟨start, style, rfl, hStyle, rfl⟩
              · obtain ⟨written, hWritten, rfl⟩ := (keyword_eq_ok (Or.inl rfl)).mp hKeyword
                exact .format hId hHead hWritten
              · obtain ⟨written, hWritten, rfl⟩ := (keyword_eq_ok (Or.inr rfl)).mp hKeyword
                obtain ⟨before, start, value, after, hBefore, rfl, hText, hValue, hAfter, rfl⟩ :=
                  styleName_eq_ok.mp hStyle
                exact .styled hId hHead hWritten hBefore hText hValue hAfter
          | clause clause =>
              obtain ⟨start, offset, next, options, rfl, hStart, hOptions, hOther, rfl⟩ :=
                readClause_eq_ok.mp hBody
              obtain ⟨written, hWritten, rfl⟩ := (keyword_eq_ok (Or.inr rfl)).mp hKeyword
              by_cases hClause : clause = .select
              · subst hClause
                obtain ⟨rfl, rfl⟩ := hStart
                obtain ⟨run, next, branches, hRun, rfl, hBranches, rfl⟩ :=
                  derivesBranches_of_read bound (ofSelect_ne_style scope) hOptions
                exact .select hId hHead hWritten hRun hBranches
                  ((Branch.exists_mem_merge branches "other").mp hOther)
              · rw [if_neg hClause] at hStart hOptions
                obtain ⟨before, start, hBefore, rfl, _, hOffset, hEnds⟩ :=
                  pluralOffset_eq_ok.mp hStart
                obtain ⟨run, next, branches, hRun, rfl, hBranches, rfl⟩ :=
                  derivesBranches_of_read bound (by decide) hOptions
                -- the blanks before the first selector were all read with the offset
                obtain rfl := hRun.eq_nil_of_ends hEnds
                exact .plural hId hHead hClause hWritten hBefore hOffset hBranches
                  ((Branch.exists_mem_merge branches "other").mp hOther)
      · obtain ⟨rfl, rfl⟩ : Element.pound = element ∧ others = rest := by
          simpa [readArgument_pound] using h
        exact .pound

/-- What is read as branches is derived, behind blanks. The grammar has the branches as they are
written, and those read so far are merged into by the parser. -/
theorem derivesBranches_of_read : (bound : Nat) → {scope : Scope} → {input rest : List Char} →
    {read options : List (Branch Message)} → scope ≠ .style →
      readBranches bound scope read input = .ok (options, rest) →
      ∃ run next branches, Blanks run ∧ input = run ++ next ∧
        DerivesBranches scope next branches rest ∧
        options = branches.foldl (fun kept branch => branch.put kept) read
  | 0, _, _, _, _, _, _, h => by simp [readBranches, fail] at h
  | bound + 1, scope, input, rest, read, options, hScope, h => by
      obtain ⟨run, next, ⟨hRun, rfl, _⟩, hStep⟩ := readBranches_eq_ok.mp h
      rcases hStep with ⟨_, rfl, rfl⟩ | ⟨_, name, start, message, after, hSelector, hRead, hOthers⟩
      · exact ⟨run, _, [], hRun, rfl, .nil, rfl⟩
      · obtain ⟨hName, between, hBetween, rfl⟩ := selector_eq_ok.mp hSelector
        obtain ⟨hMessage, _⟩ := derivesMessage_of_read bound hScope hRead
        obtain ⟨after, next, branches, hAfter, rfl, hBranches, rfl⟩ :=
          derivesBranches_of_read bound hScope hOthers
        exact ⟨run, _, ⟨name, message⟩ :: branches, hRun, rfl,
          .cons hName hBetween hMessage hAfter hBranches, rfl⟩

end

theorem DerivesOffset.length_le {offset : UInt32} (h : DerivesOffset input offset rest) :
    rest.length ≤ input.length := by
  cases h with
  | absent => exact Nat.le_refl _
  | given =>
      simp only [List.length_append]
      omega

theorem MaximalText.length_le {value : List Char} (h : MaximalText scope input value rest) :
    rest.length ≤ input.length :=
  h.1.length_le

mutual

/-- A message gives nothing back. It may be empty, so only the argument in it is sure to take a
character. -/
theorem DerivesMessage.length_le : {scope : Scope} → {input rest : List Char} →
    {message : Message} → DerivesMessage scope input message rest → rest.length ≤ input.length
  | _, _, _, _, .last hText => hText.length_le
  | _, _, _, _, .cons hText hArgument hMessage =>
      Nat.le_trans hMessage.length_le (Nat.le_trans (Nat.le_of_lt hArgument.length_lt) hText.length_le)

/-- An argument takes at least one character. This is what makes a bound by the length of the
pattern large enough. -/
theorem DerivesArgument.length_lt : {scope : Scope} → {input rest : List Char} →
    {element : Element} → DerivesArgument scope input element rest → rest.length < input.length
  | _, _, _, _, .pound | _, _, _, _, .plain .. | _, _, _, _, .format .. => by
      simp only [List.length_cons, List.length_append]
      omega
  | _, _, _, _, .styled _ _ _ _ hStyle _ _ => by
      have hLength := hStyle.length_le
      simp only [List.length_cons, List.length_append] at hLength ⊢
      omega
  | _, _, _, _, .plural _ _ _ _ _ hOffset hBranches _ => by
      have hLength := Nat.le_trans hBranches.length_le hOffset.length_le
      simp only [List.length_cons, List.length_append] at hLength ⊢
      omega
  | _, _, _, _, .select _ _ _ _ hBranches _ => by
      have hLength := hBranches.length_le
      simp only [List.length_cons, List.length_append] at hLength ⊢
      omega

theorem DerivesBranches.length_le : {scope : Scope} → {input rest : List Char} →
    {branches : List (Branch Message)} → DerivesBranches scope input branches rest →
      rest.length ≤ input.length
  | _, _, _, _, .nil => Nat.le_refl _
  | _, _, _, _, .cons _ _ hMessage _ hOthers => by
      have hLength := hMessage.length_le
      have hRest := hOthers.length_le
      simp only [List.length_cons, List.length_append] at hLength ⊢
      omega

end

theorem DerivesArgument.head {element : Element} (h : DerivesArgument scope input element rest) :
    ∃ others, input = '\x7b' :: others ∨ input = '#' :: others := by
  cases h <;> simp

/-- No text reads on into an argument, so the text in front of it is as long as it can be. -/
theorem DerivesArgument.stopsText {element : Element}
    (h : DerivesArgument scope input element rest) : StopsText scope input := by
  intro c hHead
  cases h with
  | pound =>
      obtain rfl : '#' = c := by simpa using hHead
      decide
  | plain | format | styled | plural | select =>
      obtain rfl : '\x7b' = c := by simpa using hHead
      simp [Scope.isSpecial]

theorem stopsText_brace (scope : Scope) (rest : List Char) : StopsText scope ('\x7d' :: rest) := by
  rintro c ⟨⟩
  simp [Scope.isSpecial]

/-- The first branch begins with its selector and not with a blank. Without a branch for the other
cases there may be none at all. -/
theorem DerivesBranches.ends {branches : List (Branch Message)}
    (h : DerivesBranches scope input branches rest)
    (hOther : ∃ branch ∈ branches, branch.selector = "other") : Ends isBlank input := by
  cases h with
  | nil => simp at hOther
  | cons hName => exact hName.ends_append isBlank_of_isSelectorChar _

theorem selector_ne_end {name : String} (hName : IsName isSelectorChar name) (rest : List Char) :
    name.toList ++ rest ≠ [] ∧ (name.toList ++ rest).head? ≠ some '\x7d' := by
  obtain ⟨c, others, hSplit, hc⟩ := hName.head rest
  rw [hSplit]
  refine ⟨by simp, ?_⟩
  rintro ⟨⟩
  simp [isSelectorChar] at hc

/-- In front of something that is not blank an offset does not begin with a blank either, whether it
is there or not. -/
theorem DerivesOffset.ends {offset : UInt32} (h : DerivesOffset input offset rest)
    (hEnds : Ends isBlank rest) : Ends isBlank input := by
  cases h with
  | absent => exact hEnds
  | given => exact ends_cons.mpr (by decide)

/-- An argument with a keyword is read up to what stands behind the keyword. -/
theorem readArgument_keyword {c : Char} (hc : c = '\x7d' ∨ c = ',') {id : String}
    {head written middle : List Char} {element : Element} (hId : IsName isIdChar id)
    (hHead : Padded id head) (k : Keyword)
    (hBody : match k with
      | .format f => formatted id f (c :: middle) = .ok (element, rest)
      | .clause clause =>
        readClause (fun scope => readBranches bound scope []) scope id clause (c :: middle) =
          .ok (element, rest))
    (hKeyword : Padded k.text written) :
    readArgument (bound + 1) scope ('\x7b' :: (head ++ ',' :: (written ++ c :: middle))) =
      .ok (element, rest) := by
  have hName : argumentId (head ++ ',' :: (written ++ c :: middle)) =
      .ok (id, ',' :: (written ++ c :: middle)) :=
    (argumentId_eq_ok (Or.inr rfl)).mpr ⟨hId, head, hHead, rfl⟩
  have hWord : keyword (written ++ c :: middle) = .ok (k, c :: middle) :=
    (keyword_eq_ok hc).mpr ⟨written, hKeyword, rfl⟩
  exact readArgument_eq_ok.mpr ⟨id, _, hName, Or.inr ⟨_, k, _, rfl, hWord, hBody⟩⟩

mutual

/-- A derived message is read, by any bound that is greater than the length of the input. The
grammar lets a message stop in front of any argument, so where it stops is asked for here. -/
theorem read_of_derivesMessage : (bound : Nat) → {scope : Scope} → {input rest : List Char} →
    {message : Message} → input.length < bound → DerivesMessage scope input message rest →
      EndsMessage scope rest → readMessage bound scope input = .ok (message, rest)
  | 0, _, _, _, _, hBound, _, _ => absurd hBound (Nat.not_lt_zero _)
  | bound + 1, _, _, _, _, _, .last hText, hEnds =>
      readMessage_eq_ok.mpr ⟨_, _, hText, Or.inl ⟨hEnds, rfl, rfl⟩⟩
  | bound + 1, _, _, _, _, hBound, .cons hText hArgument hMessage, hEnds => by
      have hMiddle := hText.length_le
      have hNext := hArgument.length_lt
      have hElement := read_of_derivesArgument bound (by omega) hArgument
      have hOthers := read_of_derivesMessage bound (by omega) hMessage hEnds
      refine readMessage_eq_ok.mpr ⟨_, _, hText, Or.inr ⟨?_, _, _, _, hElement, hOthers, rfl⟩⟩
      obtain ⟨others, rfl | rfl⟩ := hArgument.head <;> simp

/-- A derived argument is read. It takes a character itself, so the bound may be equal to the
length. -/
theorem read_of_derivesArgument : (bound : Nat) → {scope : Scope} → {input rest : List Char} →
    {element : Element} → input.length ≤ bound → DerivesArgument scope input element rest →
      readArgument bound scope input = .ok (element, rest)
  | 0, _, _, _, _, hBound, h => absurd h.length_lt (by omega)
  | bound + 1, scope, _, rest, _, hBound, h => by
      cases h with
      | pound => exact readArgument_pound
      | @plain _ id head _ hId hHead =>
          have hName : argumentId (head ++ '\x7d' :: rest) = .ok (id, '\x7d' :: rest) :=
            (argumentId_eq_ok (Or.inl rfl)).mpr ⟨hId, head, hHead, rfl⟩
          exact readArgument_eq_ok.mpr ⟨id, _, hName, Or.inl ⟨rfl, rfl⟩⟩
      | format hId hHead hKeyword =>
          exact readArgument_keyword (Or.inl rfl) hId hHead (.format _)
            (formatted_eq_ok.mpr (Or.inl ⟨rfl, rfl⟩)) hKeyword
      | styled hId hHead hKeyword hBefore hText hNonempty hAfter =>
          have hStyle := styleName_eq_ok.mpr
            ⟨_, _, _, _, hBefore, rfl, hText, hNonempty, hAfter, rfl⟩
          exact readArgument_keyword (Or.inr rfl) hId hHead (.format _)
            (formatted_eq_ok.mpr (Or.inr ⟨_, _, rfl, hStyle, rfl⟩)) hKeyword
      | @plural _ _ clause offset branches _ _ before input middle _ hId hHead hClause hKeyword
          hBefore hOffset hBranches hOther =>
          have hLength := hOffset.length_le
          simp only [List.length_cons, List.length_append] at hBound
          have hOptions : readBranches bound .plural [] middle =
              .ok (Branch.merge branches, '\x7d' :: rest) :=
            read_of_derivesBranches bound [] (by rw [List.nil_append]; omega) (by decide)
              blanks_nil hBranches
          have hEnds := hBranches.ends hOther
          have hStart := pluralOffset_eq_ok.mpr
            ⟨_, _, hBefore, rfl, hOffset.ends hEnds, hOffset, hEnds⟩
          refine readArgument_keyword (Or.inr rfl) hId hHead (.clause clause)
            (readClause_eq_ok.mpr ⟨before ++ input, offset, middle, Branch.merge branches, rfl,
              ?_, ?_, (Branch.exists_mem_merge _ "other").mpr hOther, rfl⟩) hKeyword
          · rwa [if_neg hClause]
          · rwa [if_neg hClause]
      | @select _ _ branches _ _ before input _ hId hHead hKeyword hBefore hBranches hOther =>
          simp only [List.length_cons, List.length_append] at hBound
          have hOptions : readBranches bound scope.ofSelect [] (before ++ input) =
              .ok (Branch.merge branches, '\x7d' :: rest) :=
            read_of_derivesBranches bound [] (by rw [List.length_append]; omega)
              (ofSelect_ne_root scope) hBefore hBranches
          exact readArgument_keyword (Or.inr rfl) hId hHead (.clause .select)
            (readClause_eq_ok.mpr ⟨before ++ input, 0, _, _, rfl, ⟨rfl, rfl⟩, hOptions,
              (Branch.exists_mem_merge _ "other").mpr hOther, rfl⟩) hKeyword

/-- Derived branches are read into those that were read before, up to the brace that closes their
clause and with blanks in front. -/
theorem read_of_derivesBranches : (bound : Nat) → {scope : Scope} →
    {run input rest : List Char} → {branches : List (Branch Message)} →
    (read : List (Branch Message)) → (run ++ input).length < bound → scope ≠ .root → Blanks run →
      DerivesBranches scope input branches ('\x7d' :: rest) →
      readBranches bound scope read (run ++ input) =
        .ok (branches.foldl (fun kept branch => branch.put kept) read, '\x7d' :: rest)
  | 0, _, _, _, _, _, _, hBound, _, _, _ => absurd hBound (Nat.not_lt_zero _)
  | bound + 1, scope, run, _, rest, _, read, hBound, hScope, hRun, h => by
      cases h with
      | nil =>
          exact readBranches_eq_ok.mpr ⟨run, _, ⟨hRun, rfl, ends_cons.mpr (by decide)⟩,
            Or.inl ⟨Or.inr rfl, rfl, rfl⟩⟩
      | @cons _ name message branches between start after next _ hName hBetween hMessage hAfter
          hOthers =>
          have hLength := hMessage.length_le
          simp only [List.length_cons, List.length_append] at hBound hLength
          have hSelector : selector (name.toList ++ (between ++ '\x7b' :: start)) =
              .ok (name, '\x7b' :: start) :=
            selector_eq_ok.mpr ⟨hName, between, hBetween, rfl⟩
          have hContent := read_of_derivesMessage bound (by omega) hMessage (Or.inr ⟨hScope, rfl⟩)
          have hOptions := read_of_derivesBranches bound (Branch.put ⟨name, message⟩ read)
            (by rw [List.length_append]; omega) hScope hAfter hOthers
          exact readBranches_eq_ok.mpr
            ⟨run, _, ⟨hRun, rfl, hName.ends_append isBlank_of_isSelectorChar _⟩, Or.inr
              ⟨selector_ne_end hName _, name, start, message, _, hSelector, hContent, hOptions⟩⟩

end

/-- What is parsed is derived from the whole pattern: at the top, nothing but the end of the pattern
stops a message. -/
theorem derives_of_parseChars {pattern : List Char} {message : Message}
    (h : parseChars pattern = .ok message) : DerivesMessage .root pattern message [] := by
  unfold parseChars at h
  split at h
  · rename_i message' rest hRead
    obtain rfl : message' = message := by simpa using h
    obtain ⟨hMessage, hEnds⟩ := derivesMessage_of_read _ (by decide) hRead
    rcases hEnds with rfl | ⟨hRoot, _⟩
    · exact hMessage
    · exact absurd rfl hRoot
  · cases h

/-- What is derived from the whole pattern is parsed. The bound that the parser gives itself is
never used up on the way. -/
theorem parseChars_of_derives {pattern : List Char} {message : Message}
    (h : DerivesMessage .root pattern message []) : parseChars pattern = .ok message := by
  have hRead := read_of_derivesMessage _ (Nat.lt_succ_self _) h (Or.inl rfl)
  unfold parseChars
  rw [StateT.run, hRead]

end LocaleMessage.Pattern
