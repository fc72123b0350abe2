import LocaleMessage.Proofs.Pattern.Derivation

/-! What stands behind a part of a pattern does not change what the part stands for. Text only needs
something behind it that stops it, an offset something that does not go on with its digits, and an
argument nothing at all. -/
namespace LocaleMessage.Pattern

open Reader

variable {scope : Scope} {input middle rest : List Char}

/-- A unit that something follows may as well be followed by anything that begins alike, or by
anything that stops text where text was stopped before. -/
theorem TextUnit.of_following {written value following following' : List Char}
    (h : TextUnit scope written value following) (hFollowing : following ≠ [])
    (hAlike : following'.head? = following.head? ∨
      StopsText scope following ∧ StopsText scope following') :
    TextUnit scope written value following' := by
  cases h with
  | ordinary hPlain hOrdinary => exact .ordinary hPlain hOrdinary
  | doubled => exact .doubled
  | lone hNext =>
      refine .lone ?_
      rcases hAlike with hHead | ⟨hStops, _⟩
      · rwa [hHead]
      · obtain ⟨c, others, rfl⟩ := List.exists_cons_of_ne_nil hFollowing
        have hSpecial := hStops c rfl
        simp [(hNext c rfl).2] at hSpecial
  | quoted hSpecial hBody hEnd =>
      refine .quoted hSpecial hBody ?_
      rcases hAlike with hHead | ⟨_, hStops⟩
      · rwa [hHead]
      · intro hHead
        have hApostrophe := hStops _ hHead
        simp at hApostrophe
  | unclosed => exact absurd rfl hFollowing

/-- Text that something stops is the same text in front of anything else that stops it. At the end
of a pattern this fails, since a quoted run may end there unclosed. -/
theorem MaximalText.exists_written {value : List Char} (h : MaximalText scope input value rest)
    (hRest : rest ≠ []) : ∃ written, input = written ++ rest ∧
      ∀ rest', StopsText scope rest' → MaximalText scope (written ++ rest') value rest' := by
  obtain ⟨hRun, hStops⟩ := maximalText_iff.mp h
  suffices hWritten : ∃ written, input = written ++ rest ∧
      ∀ rest', StopsText scope rest' → TextRun scope (written ++ rest') value rest' by
    obtain ⟨written, hInput, hRun⟩ := hWritten
    exact ⟨written, hInput, fun rest' hStops => maximalText_iff.mpr ⟨hRun rest' hStops, hStops⟩⟩
  clear h
  induction hRun with
  | nil => exact ⟨[], rfl, fun _ _ => .nil⟩
  | @cons first _ _ _ _ hFirst _ ih =>
      obtain ⟨written, rfl, hOthers⟩ := ih hRest hStops
      refine ⟨first ++ written, by simp, fun rest' hStops' => ?_⟩
      rw [List.append_assoc]
      refine .cons (hFirst.of_following (by simp [hRest]) ?_) (hOthers rest' hStops')
      cases written with
      | nil => exact Or.inr ⟨hStops, hStops'⟩
      | cons c others => exact Or.inl rfl

/-- A word does not reach over a character that no character of it is like, so what is behind that
character plays no part. -/
theorem prefix_of_prefix_append {p : Char → Bool} {word written : List Char} {c : Char}
    (hWord : ∀ d ∈ word, p d = true) (hc : p c = false) (h : word <+: written ++ c :: rest) :
    word <+: written := by
  rcases List.prefix_or_prefix_of_prefix h (List.prefix_append written _) with hPrefix | ⟨more, rfl⟩
  · exact hPrefix
  · cases more with
    | nil => simp
    | cons d others =>
        obtain ⟨rfl, _⟩ := List.cons_prefix_cons.mp ((List.prefix_append_right_inj written).mp h)
        have hClass := hWord d (by simp)
        simp [hc] at hClass

/-- Whether one text may take the place of another behind an offset, or where an offset might
stand: it neither goes on with digits nor begins like an offset where the other did not. -/
def KeepsOffset (rest rest' : List Char) : Prop :=
  (rest'.head? = rest.head? ∨ Ends Char.isDigit rest') ∧
    ("offset:".toList <+: rest' → "offset:".toList <+: rest)

theorem isSelectorChar_of_mem_offset : ∀ c ∈ "offset:".toList, isSelectorChar c = true :=
  List.all_eq_true.mp (by decide)

/-- Where a selector has ended it is settled whether the text began like an offset. The word that
begins one has only characters of selectors. -/
theorem keepsOffset_append {written : List Char}
    (hBreak : ∃ c ∈ written, isSelectorChar c = false) (rest rest' : List Char) :
    KeepsOffset (written ++ rest) (written ++ rest') := by
  obtain ⟨c, hMem, hc⟩ := hBreak
  obtain ⟨before, after, rfl⟩ := List.append_of_mem hMem
  refine ⟨Or.inl (by simp [List.head?_append]), fun h => ?_⟩
  have hPrefix : "offset:".toList <+: before :=
    prefix_of_prefix_append isSelectorChar_of_mem_offset hc (by simpa using h)
  exact hPrefix.trans (by simp)

theorem isSelectorChar_of_isDigit (c : Char) (h : c.isDigit = true) : isSelectorChar c = true := by
  cases hSelector : isSelectorChar c with
  | true => rfl
  | false =>
      simp only [isSelectorChar, Bool.not_eq_false', Bool.or_eq_true, decide_eq_true_eq]
        at hSelector
      rcases hSelector with ((rfl | rfl) | rfl) | hBlank
      · simp at h
      · simp at h
      · simp at h
      · simp [isBlank_of_isDigit c h] at hBlank

/-- Nothing that ends a selector is part of an offset or of the word that begins one, whatever stood
there before. -/
theorem keepsOffset_of_ends {rest' : List Char} (hEnds : Ends isSelectorChar rest')
    (written rest : List Char) : KeepsOffset (written ++ rest) (written ++ rest') := by
  refine ⟨?_, fun h => ?_⟩
  · cases written with
    | nil =>
        refine Or.inr fun c hHead => ?_
        cases hDigit : c.isDigit with
        | false => rfl
        | true => exact absurd (hEnds c hHead) (by simp [isSelectorChar_of_isDigit c hDigit])
    | cons c others => exact Or.inl rfl
  · have hWritten : "offset:".toList <+: written := by
      cases rest' with
      | nil => simpa using h
      | cons c others =>
          exact prefix_of_prefix_append isSelectorChar_of_mem_offset (ends_cons.mp hEnds) h
    exact hWritten.trans (List.prefix_append ..)

/-- An offset is the same in front of anything that keeps it. Without an offset nothing is written
and the same is asked. -/
theorem DerivesOffset.exists_written {offset : UInt32} (h : DerivesOffset input offset rest) :
    ∃ written, input = written ++ rest ∧
      ∀ rest', KeepsOffset rest rest' → DerivesOffset (written ++ rest') offset rest' := by
  cases h with
  | absent hAbsent =>
      exact ⟨[], rfl, fun rest' hKeeps => .absent fun hPrefix => hAbsent (hKeeps.2 hPrefix)⟩
  | @given before digits after _ hBefore hDigits hRange hEnd hAfter =>
      refine ⟨"offset:".toList ++ (before ++ (digits ++ after)), by simp, fun rest' hKeeps => ?_⟩
      have hEnd' : Ends Char.isDigit (after ++ rest') := by
        cases after with
        | nil =>
            rcases hKeeps.1 with hHead | hEnds
            · intro c hc
              exact hEnd c (hHead ▸ hc)
            · exact hEnds
        | cons c others => exact ends_cons.mpr (ends_cons.mp hEnd)
      simpa using DerivesOffset.given hBefore hDigits hRange hEnd' hAfter

/-- Blanks end a style, and so does its brace. -/
theorem Blanks.stopsText {run : List Char} (hRun : Blanks run) (rest : List Char) :
    StopsText .style (run ++ '\x7d' :: rest) := by
  intro c hHead
  rcases hRun.head_append hHead with hBlank | rfl
  · simp [Scope.isSpecial, hBlank]
  · simp [Scope.isSpecial]

theorem DerivesArgument.ne_nil {element : Element}
    (h : DerivesArgument scope input element rest) : input ≠ [] := by
  obtain ⟨others, rfl | rfl⟩ := h.head <;> simp

mutual

/-- A message that something stops is the same message in front of anything else that stops it. The
three statements go by recursion on the derivation. -/
theorem DerivesMessage.exists_written : {scope : Scope} → {input rest : List Char} →
    {message : Message} → DerivesMessage scope input message rest → rest ≠ [] →
      ∃ written, input = written ++ rest ∧ ∀ rest', StopsText scope rest' →
        DerivesMessage scope (written ++ rest') message rest'
  | _, _, _, _, .last hText, hRest => by
      obtain ⟨written, rfl, hWritten⟩ := hText.exists_written hRest
      exact ⟨written, rfl, fun rest' hStops => .last (hWritten rest' hStops)⟩
  | _, _, _, _, .cons hText hArgument hMessage, hRest => by
      obtain ⟨others, hNext, hOthers⟩ := hMessage.exists_written hRest
      obtain ⟨argument, hMiddle, hElement⟩ := hArgument.exists_written
      obtain ⟨text, rfl, hWritten⟩ := hText.exists_written hArgument.ne_nil
      refine ⟨text ++ (argument ++ others), by simp [hMiddle, hNext], fun rest' hStops => ?_⟩
      have hArgument' := hElement (others ++ rest')
      simpa using DerivesMessage.cons (hWritten _ hArgument'.stopsText) hArgument'
        (hOthers rest' hStops)

/-- An argument is the same in front of anything: it ends with its brace, or is a number sign. -/
theorem DerivesArgument.exists_written : {scope : Scope} → {input rest : List Char} →
    {element : Element} → DerivesArgument scope input element rest →
      ∃ written, input = written ++ rest ∧ ∀ rest',
        DerivesArgument scope (written ++ rest') element rest'
  | _, _, _, _, .pound => ⟨['#'], rfl, fun _ => .pound⟩
  | _, _, _, _, @DerivesArgument.plain _ _ head _ hId hHead =>
      ⟨'\x7b' :: (head ++ ['\x7d']), by simp, fun rest' => by
        simpa using DerivesArgument.plain hId hHead⟩
  | _, _, _, _, @DerivesArgument.format _ _ _ head keyword _ hId hHead hKeyword =>
      ⟨'\x7b' :: (head ++ ',' :: (keyword ++ ['\x7d'])), by simp, fun rest' => by
        simpa using DerivesArgument.format hId hHead hKeyword⟩
  | _, _, _, _, @DerivesArgument.styled _ _ _ head keyword before _ _ after rest hId hHead hKeyword
      hBefore hStyle hNonempty hAfter => by
      obtain ⟨style, rfl, hWritten⟩ := hStyle.exists_written (by simp)
      refine ⟨'\x7b' :: (head ++ ',' :: (keyword ++ ',' ::
        (before ++ (style ++ (after ++ ['\x7d']))))), by simp, fun rest' => ?_⟩
      simpa using DerivesArgument.styled hId hHead hKeyword hBefore
        (hWritten _ (hAfter.stopsText rest')) hNonempty hAfter
  | _, _, _, _, @DerivesArgument.plural _ _ _ _ _ head keyword before _ _ rest hId hHead hClause
      hKeyword hBefore hOffset hBranches hOther => by
      obtain ⟨written, rfl, hBreak, hWritten⟩ := hBranches.exists_written
      obtain ⟨offset, rfl, hGiven⟩ := hOffset.exists_written
      refine ⟨'\x7b' :: (head ++ ',' :: (keyword ++ ',' ::
        (before ++ (offset ++ (written ++ ['\x7d']))))), by simp, fun rest' => ?_⟩
      have hSome : ∃ c ∈ written, isSelectorChar c = false :=
        hBreak.resolve_left (by rintro ⟨-, rfl⟩; simp at hOther)
      have hOffset' := hGiven _ (keepsOffset_append hSome _ ('\x7d' :: rest'))
      simpa using DerivesArgument.plural hId hHead hClause hKeyword hBefore hOffset'
        (hWritten ('\x7d' :: rest')) hOther
  | _, _, _, _, @DerivesArgument.select _ _ _ head keyword before _ rest hId hHead hKeyword hBefore
      hBranches hOther => by
      obtain ⟨written, rfl, -, hWritten⟩ := hBranches.exists_written
      refine ⟨'\x7b' :: (head ++ ',' :: (keyword ++ ',' :: (before ++ (written ++ ['\x7d'])))),
        by simp, fun rest' => ?_⟩
      simpa using DerivesArgument.select hId hHead hKeyword hBefore (hWritten ('\x7d' :: rest'))
        hOther

/-- Branches are the same in front of anything. If there are any, a selector has ended in them. -/
theorem DerivesBranches.exists_written : {scope : Scope} → {input rest : List Char} →
    {branches : List (Branch Message)} → DerivesBranches scope input branches rest →
      ∃ written, input = written ++ rest ∧
        (written = [] ∧ branches = [] ∨ ∃ c ∈ written, isSelectorChar c = false) ∧
        ∀ rest', DerivesBranches scope (written ++ rest') branches rest'
  | _, _, _, _, .nil => ⟨[], rfl, Or.inl ⟨rfl, rfl⟩, fun _ => .nil⟩
  | scope, _, _, _, @DerivesBranches.cons _ name _ _ between _ after _ _ hName hBetween hMessage
      hAfter hOthers => by
      obtain ⟨message, hStart, hWritten⟩ := hMessage.exists_written (by simp)
      obtain ⟨others, rfl, -, hOthers⟩ := hOthers.exists_written
      subst hStart
      refine ⟨name.toList ++ (between ++ '\x7b' :: (message ++ '\x7d' :: (after ++ others))),
        by simp, Or.inr ⟨'\x7b', by simp, by decide⟩, fun rest' => ?_⟩
      have hMessage' := hWritten ('\x7d' :: (after ++ (others ++ rest'))) (stopsText_brace scope _)
      simpa using DerivesBranches.cons hName hBetween hMessage' hAfter (hOthers rest')

end

/-- What stands in the braces of a branch may be anything else. So what has been derived up to there
can be kept when a message is completed. -/
theorem DerivesBranches.exists_start {branches : List (Branch Message)} {name : String}
    {between start : List Char}
    (h : DerivesBranches scope input branches (name.toList ++ (between ++ '\x7b' :: start))) :
    ∃ written, input = written ++ start ∧ ∀ start', KeepsOffset input (written ++ start') ∧
      DerivesBranches scope (written ++ start') branches
        (name.toList ++ (between ++ '\x7b' :: start')) := by
  obtain ⟨written, rfl, -, hWritten⟩ := h.exists_written
  refine ⟨written ++ (name.toList ++ (between ++ ['\x7b'])), by simp, fun start' => ⟨?_, ?_⟩⟩
  · have hBreak : ∃ c ∈ written ++ (name.toList ++ (between ++ ['\x7b'])),
        isSelectorChar c = false :=
      ⟨'\x7b', by simp, by decide⟩
    simpa using keepsOffset_append hBreak start start'
  · simpa using hWritten (name.toList ++ (between ++ '\x7b' :: start'))

/-- Text in turn with arguments, up to the end of an argument. This is what can be said of a message
before its end is known. -/
inductive DerivesArguments (scope : Scope) : List Char → Message → List Char → Prop where
  | nil {rest : List Char} : DerivesArguments scope rest [] rest
  | cons {input text middle next rest : List Char} {element : Element} {elements : Message}
      (hText : MaximalText scope input text middle)
      (hArgument : DerivesArgument scope middle element next)
      (hOthers : DerivesArguments scope next elements rest) :
      DerivesArguments scope input (textElements text ++ element :: elements) rest

namespace DerivesArguments

variable {elements : Message}

/-- A message is arguments and the text behind the last one, so a message may be put behind
arguments. -/
theorem message {message : Message} (h : DerivesArguments scope input elements middle)
    (hMessage : DerivesMessage scope middle message rest) :
    DerivesMessage scope input (elements ++ message) rest := by
  induction h with
  | nil => exact hMessage
  | cons hText hArgument _ ih => simpa using DerivesMessage.cons hText hArgument (ih hMessage)

theorem append {others : Message} (h : DerivesArguments scope input elements middle)
    (hOthers : DerivesArguments scope middle others rest) :
    DerivesArguments scope input (elements ++ others) rest := by
  induction h with
  | nil => exact hOthers
  | cons hText hArgument _ ih => simpa using DerivesArguments.cons hText hArgument (ih hOthers)

/-- Arguments are the same in front of anything, and so are no arguments at all. -/
theorem exists_written (h : DerivesArguments scope input elements rest) :
    ∃ written, input = written ++ rest ∧
      ∀ rest', DerivesArguments scope (written ++ rest') elements rest' := by
  induction h with
  | nil => exact ⟨[], rfl, fun _ => .nil⟩
  | cons hText hArgument _ ih =>
      obtain ⟨others, rfl, hOthers⟩ := ih
      obtain ⟨argument, rfl, hElement⟩ := hArgument.exists_written
      obtain ⟨text, rfl, hWritten⟩ := hText.exists_written hArgument.ne_nil
      refine ⟨text ++ (argument ++ others), by simp, fun rest' => ?_⟩
      have hArgument' := hElement (others ++ rest')
      simpa using DerivesArguments.cons (hWritten _ hArgument'.stopsText) hArgument' (hOthers rest')

/-- Arguments and the text behind them are the same in front of anything that stops the text. -/
theorem exists_written_text {text next : List Char}
    (h : DerivesArguments scope input elements middle) (hText : MaximalText scope middle text next)
    (hNext : next ≠ []) :
    ∃ written, input = written ++ next ∧ ∀ next', StopsText scope next' →
      ∃ middle', DerivesArguments scope (written ++ next') elements middle' ∧
        MaximalText scope middle' text next' := by
  obtain ⟨arguments, rfl, hArguments⟩ := h.exists_written
  obtain ⟨written, rfl, hWritten⟩ := hText.exists_written hNext
  refine ⟨arguments ++ written, by simp, fun next' hStops =>
    ⟨written ++ next', ?_, hWritten _ hStops⟩⟩
  simpa using hArguments (written ++ next')

end DerivesArguments

/-- A message splits behind its last argument. The text behind it may be empty. -/
theorem DerivesMessage.exists_arguments : {input rest : List Char} → {message : Message} →
    DerivesMessage scope input message rest → ∃ elements middle text,
      DerivesArguments scope input elements middle ∧ MaximalText scope middle text rest ∧
        message = elements ++ textElements text
  | _, _, _, .last hText => ⟨[], _, _, .nil, hText, rfl⟩
  | _, _, _, .cons hText hArgument hMessage => by
      obtain ⟨elements, middle, text, hArguments, hLast, rfl⟩ := hMessage.exists_arguments
      exact ⟨_, middle, text, .cons hText hArgument hArguments, hLast, by simp⟩

end LocaleMessage.Pattern
