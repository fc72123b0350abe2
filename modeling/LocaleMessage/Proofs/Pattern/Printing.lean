import LocaleMessage.Proofs.Number
import LocaleMessage.Proofs.Pattern.WellFormed

/-! A pattern for every well-formed message. Text is quoted in one run from its first special
character on. A run for each special character would not do, because an apostrophe that closes a
run may not stand in front of the next one. -/
namespace LocaleMessage.Pattern

open Reader

/-- Text with its apostrophes doubled. Within quotes and outside of them they are doubled alike, so
that none opens or closes a run. -/
def doubled : List Char → List Char
  | [] => []
  | c :: rest => if c = '\'' then '\'' :: '\'' :: doubled rest else c :: doubled rest

/-- Text as it is written in a scope, quoted from the first special character to its end. -/
def printText (scope : Scope) (text : List Char) : List Char :=
  let plain := text.takeWhile fun c => !scope.isSpecial c
  match text.dropWhile fun c => !scope.isSpecial c with
  | [] => doubled plain
  | quoted => doubled plain ++ '\'' :: (doubled quoted ++ ['\''])

/-- The keyword of a plural. -/
def pluralKeyword (ordinal : Bool) : Clause :=
  if ordinal then .selectordinal else .plural

/-- The head of a clause or of an argument with a keyword, up to the comma behind the keyword. It
has no blanks. -/
def printHead (id keyword : String) : List Char :=
  '\x7b' :: (id.toList ++ ',' :: keyword.toList)

mutual

/-- An element as it is written in a scope. The offset of a plural is always written. -/
def printElement (scope : Scope) : Element → List Char
  | .literal text => printText scope text.toList
  | .argument id => '\x7b' :: (id.toList ++ ['\x7d'])
  | .typed id kind none => printHead id kind.text ++ ['\x7d']
  | .typed id kind (some style) =>
    printHead id kind.text ++ ',' :: (printText .style style.toList ++ ['\x7d'])
  | .plural id ordinal offset options =>
    printHead id (pluralKeyword ordinal).text ++ ',' :: ("offset:".toList ++
      (decimalDigits offset.toNat ++ ' ' :: (printBranches .plural options ++ ['\x7d'])))
  | .select id options =>
    printHead id Clause.select.text ++ ',' :: (printBranches scope.ofSelect options ++ ['\x7d'])
  | .pound => ['#']

/-- Elements one behind the other. In a well-formed message no two texts stand together, which would
be read as one. -/
def printMessage (scope : Scope) : List Element → List Char
  | [] => []
  | element :: rest => printElement scope element ++ printMessage scope rest

def printBranches (scope : Scope) : List (Branch (List Element)) → List Char
  | [] => []
  | ⟨selector, message⟩ :: rest =>
    selector.toList ++ '\x7b' :: (printMessage scope message ++ '\x7d' :: printBranches scope rest)

end

/-- A pattern for the message. At the top there is no plural, so number signs stand for themselves
there. -/
def print (message : Message) : String :=
  String.ofList (printMessage .root message)

variable {scope : Scope} {input rest : List Char}

theorem quotedBody_doubled (text : List Char) : QuotedBody (doubled text) text := by
  induction text with
  | nil => exact .nil
  | cons c others ih =>
      rw [doubled]
      split_ifs with hc
      · exact hc ▸ .doubled ih
      · exact .plain hc ih

/-- Text without special characters needs no quoting. Nothing is asked of what it stands in front
of. -/
theorem textRun_doubled {plain value : List Char}
    (hPlain : ∀ c ∈ plain, scope.isSpecial c = false) (hRun : TextRun scope input value rest) :
    TextRun scope (doubled plain ++ input) (plain ++ value) rest := by
  induction plain with
  | nil => exact hRun
  | cons c others ih =>
      obtain ⟨hOrdinary, hOthers⟩ := List.forall_mem_cons.mp hPlain
      rw [doubled]
      split_ifs with hc
      · subst hc
        have hAll := TextRun.cons .doubled (ih hOthers)
        exact hAll
      · have hAll := TextRun.cons (.ordinary hc hOrdinary) (ih hOthers)
        exact hAll

/-- Text has no special character, or splits at the first one. Printing goes by the same
two cases. -/
theorem plain_or_first_special (scope : Scope) (text : List Char) :
    (∀ c ∈ text, scope.isSpecial c = false) ∨
      ∃ plain c others, (∀ c ∈ plain, scope.isSpecial c = false) ∧ scope.isSpecial c = true ∧
        text = plain ++ c :: others := by
  induction text with
  | nil => exact Or.inl (by simp)
  | cons d rest ih =>
      cases hSpecial : scope.isSpecial d with
      | true => exact Or.inr ⟨[], d, rest, by simp, hSpecial, rfl⟩
      | false =>
          rcases ih with hPlain | ⟨plain, c, others, hPlain, hc, rfl⟩
          · exact Or.inl (List.forall_mem_cons.mpr ⟨hSpecial, hPlain⟩)
          · exact Or.inr ⟨d :: plain, c, others, List.forall_mem_cons.mpr ⟨hSpecial, hPlain⟩, hc, rfl⟩

theorem printText_plain {plain : List Char} (hPlain : ∀ c ∈ plain, scope.isSpecial c = false) :
    printText scope plain = doubled plain := by
  have hSpan : plain.takeWhile (fun c => !scope.isSpecial c) = plain ∧
      plain.dropWhile (fun c => !scope.isSpecial c) = [] :=
    span_eq_iff.mpr ⟨by simpa using hPlain, (List.append_nil plain).symm, by simp [Ends]⟩
  rw [printText, hSpan.1, hSpan.2]

/-- The quoted run goes from the first special character to the end of the text, over all other
special characters. -/
theorem printText_special {plain others : List Char} {c : Char}
    (hPlain : ∀ c ∈ plain, scope.isSpecial c = false) (hSpecial : scope.isSpecial c = true) :
    printText scope (plain ++ c :: others) =
      doubled plain ++ '\'' :: c :: (doubled others ++ ['\'']) := by
  have hSpan : (plain ++ c :: others).takeWhile (fun c => !scope.isSpecial c) = plain ∧
      (plain ++ c :: others).dropWhile (fun c => !scope.isSpecial c) = c :: others :=
    span_eq_iff.mpr ⟨by simpa using hPlain, rfl, ends_cons.mpr (by simp [hSpecial])⟩
  rw [printText, hSpan.1, hSpan.2]
  simp [doubled, ne_apostrophe_of_isSpecial hSpecial]

/-- Printed text is text again wherever text has to stop behind it. Elsewhere what follows would be
read as more of it. -/
theorem maximalText_print (text : List Char) (hStops : StopsText scope rest) :
    MaximalText scope (printText scope text ++ rest) text rest := by
  refine maximalText_iff.mpr ⟨?_, hStops⟩
  rcases plain_or_first_special scope text with hPlain | ⟨plain, c, others, hPlain, hSpecial, rfl⟩
  · rw [printText_plain hPlain]
    simpa using textRun_doubled hPlain TextRun.nil
  · -- what stops text is special, so the closing apostrophe cannot be taken for a doubled one
    have hEnd : rest.head? ≠ some '\'' := fun hHead => by simpa using hStops _ hHead
    have hQuoted := TextRun.cons (.quoted hSpecial (quotedBody_doubled others) hEnd) .nil
    rw [printText_special hPlain hSpecial]
    simpa using textRun_doubled hPlain hQuoted

/-- One quoted run holds all special characters, so no apostrophe stands between two braces. -/
example : printText .plural "it's \x7b\x7d#".toList = "it''s '\x7b\x7d#'".toList := by
  decide

theorem padded_self (word : String) : Padded word word.toList := by
  have hPadded : Padded word ([] ++ word.toList ++ []) := .mk blanks_nil blanks_nil
  simpa using hPadded

/-- Every kind of formatted argument has a keyword that stands for it. Keywords that stand for a
kind with a style are left out here. -/
theorem kind_element (id : String) (kind : ArgumentKind) (style : Option String) :
    ∃ f : Format, f.text = kind.text ∧ f.element id style = .typed id kind style := by
  cases kind with
  | number => exact ⟨.number, rfl, rfl⟩
  | date => exact ⟨.date, rfl, rfl⟩
  | time => exact ⟨.time, rfl, rfl⟩

theorem pluralKeyword_ne_select (ordinal : Bool) : pluralKeyword ordinal ≠ .select := by
  cases ordinal <;> decide

theorem pluralKeyword_element (id : String) (ordinal : Bool) (offset : UInt32)
    (options : List (Branch Message)) :
    (pluralKeyword ordinal).element id offset options = .plural id ordinal offset options := by
  cases ordinal <;> rfl

/-- A printed offset is read back. The blank behind it ends the digits, in front of a selector that
may begin with some. -/
theorem derivesOffset_print (offset : UInt32) (rest : List Char) :
    DerivesOffset ("offset:".toList ++ (decimalDigits offset.toNat ++ ' ' :: rest)) offset rest := by
  have hDigits : decimalDigits offset.toNat ≠ [] ∧
      ∀ c ∈ decimalDigits offset.toNat, c.isDigit = true :=
    ⟨decimalDigits_ne_nil _, fun _ => isDigit_of_mem_decimalDigits⟩
  have hBlank : Blanks [' '] := by simp [Blanks, isBlank]
  have hGiven : DerivesOffset _ (UInt32.ofNat (digitsValue (decimalDigits offset.toNat))) rest :=
    .given blanks_nil hDigits (by simpa using offset.toNat_lt) (ends_cons.mpr (by decide)) hBlank
  simpa using hGiven

theorem eq_nil_of_textElements_head {text : List Char} {message : Message}
    (hHead : ∀ next, (textElements text ++ message).head? = some next → isLiteral next = false) :
    text = [] := by
  cases text with
  | nil => rfl
  | cons c others => exact absurd (hHead _ rfl) (by simp [isLiteral])

theorem textElements_toList {text : String} (h : text ≠ "") :
    textElements text.toList = [.literal text] := by
  cases hText : text.toList with
  | nil => simp [h] at hText
  | cons c others => rw [textElements, ← hText, String.ofList_toList]

/-- Text may be printed in front of a message that begins with none. -/
theorem DerivesMessage.literal_cons {text : String} {message : Message} (hText : text ≠ "")
    (hHead : ∀ next, message.head? = some next → isLiteral next = false)
    (hMessage : DerivesMessage scope input message rest) :
    DerivesMessage scope (printText scope text.toList ++ input) (.literal text :: message) rest := by
  have hLiteral : textElements text.toList = [.literal text] := textElements_toList hText
  cases hMessage with
  | last hEmpty =>
      rw [← List.append_nil (textElements _)] at hHead
      obtain rfl := eq_nil_of_textElements_head hHead
      obtain ⟨rfl, hStops⟩ := hEmpty.of_nil
      have hAll := DerivesMessage.last (maximalText_print text.toList hStops)
      rwa [hLiteral] at hAll
  | cons hEmpty hArgument hOthers =>
      obtain rfl := eq_nil_of_textElements_head hHead
      obtain ⟨rfl, hStops⟩ := hEmpty.of_nil
      have hAll := DerivesMessage.cons (maximalText_print text.toList hStops) hArgument hOthers
      rwa [hLiteral] at hAll

/-- An argument may be printed in front of any message, because no text reads on into it. -/
theorem DerivesMessage.argument_cons {next : List Char} {element : Element} {message : Message}
    (hArgument : DerivesArgument scope input element next)
    (hMessage : DerivesMessage scope next message rest) :
    DerivesMessage scope input (element :: message) rest :=
  .cons (maximalText_iff.mpr ⟨.nil, hArgument.stopsText⟩) hArgument hMessage

mutual

/-- A printed message is derived from its text wherever text stops behind it. The three statements
go by recursion on the message. -/
theorem derivesMessage_print : (scope : Scope) → {rest : List Char} → (message : List Element) →
    WellFormedMessage (scope = .plural) message → StopsText scope rest →
      DerivesMessage scope (printMessage scope message ++ rest) message rest
  | _, _, [], _, hStops => by
      simpa [printMessage, textElements] using DerivesMessage.last (maximalText_iff.mpr ⟨.nil, hStops⟩)
  | scope, _, element :: others, h, hStops => by
      obtain ⟨hElement, hNext, hOthers⟩ := h
      have hMessage := derivesMessage_print scope others hOthers hStops
      rw [printMessage, List.append_assoc]
      cases hLiteral : isLiteral element with
      | true =>
          cases element with
          | literal text => exact hMessage.literal_cons hElement (hNext hLiteral)
          | _ => simp [isLiteral] at hLiteral
      | false => exact .argument_cons (derivesArgument_print scope element hLiteral hElement _) hMessage

/-- Every other element than text is derived from what is printed for it, in front of anything. -/
theorem derivesArgument_print : (scope : Scope) → (element : Element) → isLiteral element = false →
    WellFormedElement (scope = .plural) element → (rest : List Char) →
      DerivesArgument scope (printElement scope element ++ rest) element rest
  | _, .literal _, hLiteral, _, _ => by simp [isLiteral] at hLiteral
  | scope, .pound, _, hScope, rest => by
      obtain rfl : scope = .plural := by simpa [WellFormedElement] using hScope
      exact .pound
  | _, .argument id, _, hId, rest => by
      simpa [printElement] using DerivesArgument.plain hId (padded_self id)
  | scope, .typed id kind none, _, ⟨hId, _⟩, rest => by
      obtain ⟨f, hText, hElement⟩ := kind_element id kind none
      have hPrinted : DerivesArgument scope _ _ rest :=
        .format hId (padded_self id) (padded_self f.text)
      rw [hText, hElement] at hPrinted
      simpa [printElement, printHead] using hPrinted
  | scope, .typed id kind (some style), _, ⟨hId, hStyle⟩, rest => by
      obtain ⟨f, hText, hElement⟩ := kind_element id kind (some style)
      have hPrinted : DerivesArgument scope _ _ rest :=
        .styled hId (padded_self id) (padded_self f.text) blanks_nil
          (maximalText_print style.toList (stopsText_brace .style rest)) (by simpa using hStyle)
          blanks_nil
      rw [hText, String.ofList_toList, hElement] at hPrinted
      simpa [printElement, printHead] using hPrinted
  | scope, .plural id ordinal offset options, _, ⟨hId, hSelectors, hOptions⟩, rest => by
      have hBranches : DerivesBranches .plural _ options ('\x7d' :: rest) :=
        derivesBranches_print .plural options hOptions hSelectors.names _
      have hPrinted : DerivesArgument scope _ _ rest :=
        .plural hId (padded_self id) (pluralKeyword_ne_select ordinal) (padded_self _) blanks_nil
          (derivesOffset_print offset _) hBranches hSelectors.exists_other
      rw [Branch.merge_of_nodup hSelectors.distinct, pluralKeyword_element] at hPrinted
      simpa [printElement, printHead] using hPrinted
  | scope, .select id options, _, ⟨hId, hSelectors, hOptions⟩, rest => by
      have hBranches : DerivesBranches scope.ofSelect _ options ('\x7d' :: rest) :=
        derivesBranches_print scope.ofSelect options (by simpa only [ofSelect_eq_plural_iff] using hOptions)
          hSelectors.names _
      have hPrinted : DerivesArgument scope _ _ rest :=
        .select hId (padded_self id) (padded_self _) blanks_nil hBranches hSelectors.exists_other
      rw [Branch.merge_of_nodup hSelectors.distinct] at hPrinted
      simpa [printElement, printHead] using hPrinted

theorem derivesBranches_print : (scope : Scope) → (branches : List (Branch (List Element))) →
    WellFormedBranches (scope = .plural) branches →
      (∀ selector ∈ branches.map Branch.selector, IsName isSelectorChar selector) →
      (rest : List Char) → DerivesBranches scope (printBranches scope branches ++ rest) branches rest
  | _, [], _, _, _ => .nil
  | scope, ⟨selector, message⟩ :: others, ⟨hMessage, hOthers⟩, hNames, rest => by
      obtain ⟨hName, hNames⟩ := List.forall_mem_cons.mp hNames
      have hContent := derivesMessage_print scope message hMessage
        (stopsText_brace scope ([] ++ (printBranches scope others ++ rest)))
      have hPrinted : DerivesBranches scope _ _ rest :=
        .cons hName blanks_nil hContent blanks_nil (derivesBranches_print scope others hOthers hNames rest)
      simpa [printBranches] using hPrinted

end

/-- A well-formed message is read back from its pattern. -/
theorem parse_print {message : Message} (h : WellFormedMessage false message) :
    parse (print message) = .ok message := by
  have hDerives : DerivesMessage .root (printMessage .root message ++ []) message [] :=
    derivesMessage_print .root message h (by simp [StopsText])
  rw [List.append_nil] at hDerives
  unfold parse print
  rw [String.toList_ofList]
  exact parseChars_of_derives hDerives

/-- Quoting at both ends of texts, a selector that looks like an offset, and nested clauses. -/
theorem parse_print_nested :
    parse (print [.plural "n" true 1 [⟨"offset:1", [.literal "'\x7b\x7d'", .pound]⟩,
      ⟨"other", [.select "g" [⟨"other", [.pound, .literal "#'"]⟩]]⟩]]) =
    .ok [.plural "n" true 1 [⟨"offset:1", [.literal "'\x7b\x7d'", .pound]⟩,
      ⟨"other", [.select "g" [⟨"other", [.pound, .literal "#'"]⟩]]⟩]] :=
  parse_print (by
    simp [WellFormedMessage, WellFormedElement, WellFormedBranches, wellFormedSelectors_iff,
      IsName, isLiteral, isIdChar, isSelectorChar, isBlank])

end LocaleMessage.Pattern
