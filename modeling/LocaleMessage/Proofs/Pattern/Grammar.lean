import LocaleMessage.Pattern.Parser
import LocaleMessage.Proofs.Branch

/-! The grammar of patterns: which text stands for which message. Each relation puts an input next
to what its beginning stands for and to the rest behind it, because quoting and digits depend on
what comes next. Nothing here says in which order a pattern is read. -/
namespace LocaleMessage.Pattern

open Reader

/-- A run of blanks, possibly empty. Which characters are blank is the same everywhere in a
pattern. -/
def Blanks (run : List Char) : Prop :=
  ∀ c ∈ run, isBlank c = true

/-- No character of the class comes next. The end of the pattern ends every class. -/
def Ends (p : Char → Bool) (rest : List Char) : Prop :=
  ∀ c, rest.head? = some c → p c = false

/-- A name that is not empty and has only characters of the class. Arguments and selectors are names
of different classes. -/
def IsName (p : Char → Bool) (name : String) : Prop :=
  name ≠ "" ∧ ∀ c ∈ name.toList, p c = true

/-- A word with blanks around it. There may be none on either side, and the word itself has to stand
there as it is. -/
inductive Padded (word : String) : List Char → Prop where
  | mk {before after : List Char} (hBefore : Blanks before) (hAfter : Blanks after) :
      Padded word (before ++ word.toList ++ after)

/-- The inside of a quoted run behind its first character, as it is written and as it is meant.
An apostrophe occurs in it only doubled. -/
inductive QuotedBody : List Char → List Char → Prop where
  | nil : QuotedBody [] []
  | plain {c : Char} {written value : List Char} (hPlain : c ≠ '\'')
      (others : QuotedBody written value) : QuotedBody (c :: written) (c :: value)
  | doubled {written value : List Char} (others : QuotedBody written value) :
      QuotedBody ('\'' :: '\'' :: written) ('\'' :: value)

/-- One unit of text: how it is written, what it stands for, and what may follow it. -/
inductive TextUnit (scope : Scope) : List Char → List Char → List Char → Prop where
  | ordinary {c : Char} {following : List Char} (hPlain : c ≠ '\'')
      (hOrdinary : scope.isSpecial c = false) : TextUnit scope [c] [c] following
  /-- Two apostrophes stand for one. -/
  | doubled {following : List Char} : TextUnit scope ['\'', '\''] ['\''] following
  /-- An apostrophe that nothing makes special stands for itself. -/
  | lone {following : List Char}
      (hNext : ∀ c, following.head? = some c → c ≠ '\'' ∧ scope.isSpecial c = false) :
      TextUnit scope ['\''] ['\''] following
  /-- A quoted run, from a special character to the next apostrophe that is not doubled. -/
  | quoted {c : Char} {body value following : List Char} (hSpecial : scope.isSpecial c = true)
      (hBody : QuotedBody body value) (hEnd : following.head? ≠ some '\'') :
      TextUnit scope ('\'' :: c :: (body ++ ['\''])) (c :: value) following
  /-- A quoted run that ends with the pattern. -/
  | unclosed {c : Char} {body value : List Char} (hSpecial : scope.isSpecial c = true)
      (hBody : QuotedBody body value) : TextUnit scope ('\'' :: c :: body) (c :: value) []

/-- Text as a sequence of units. Each unit says what may follow it, so the next one has to begin
accordingly. -/
inductive TextRun (scope : Scope) : List Char → List Char → List Char → Prop where
  | nil {rest : List Char} : TextRun scope rest [] rest
  | cons {written value input values rest : List Char} (first : TextUnit scope written value input)
      (others : TextRun scope input values rest) :
      TextRun scope (written ++ input) (value ++ values) rest

/-- Text that no further unit continues. This is what makes the text in front of an argument the
only one. -/
def MaximalText (scope : Scope) (input value rest : List Char) : Prop :=
  TextRun scope input value rest ∧
    ∀ written unit following, rest = written ++ following → ¬ TextUnit scope written unit following

/-- The offset of a plural and the blanks behind it. An input that begins like one has to go on
like one, and its digits are all digits that stand there. -/
inductive DerivesOffset : List Char → UInt32 → List Char → Prop where
  | absent {input : List Char} (hAbsent : ¬ "offset:".toList <+: input) :
      DerivesOffset input 0 input
  | given {before digits after rest : List Char} (hBefore : Blanks before)
      (hDigits : digits ≠ [] ∧ ∀ c ∈ digits, c.isDigit = true)
      (hRange : digitsValue digits < UInt32.size)
      (hEnd : Ends Char.isDigit (after ++ rest)) (hAfter : Blanks after) :
      DerivesOffset ("offset:".toList ++ (before ++ (digits ++ (after ++ rest))))
        (UInt32.ofNat (digitsValue digits)) rest

/-- Text as elements of a message: one literal, and none at all where the text stands for
nothing. -/
def textElements : List Char → Message
  | [] => []
  | c :: others => [.literal (String.ofList (c :: others))]

mutual

/-- Text that goes as far as it can, in turn with arguments. Behind the last text nothing is said
about what follows. -/
inductive DerivesMessage : Scope → List Char → Message → List Char → Prop where
  | last {scope : Scope} {input text rest : List Char}
      (hText : MaximalText scope input text rest) :
      DerivesMessage scope input (textElements text) rest
  | cons {scope : Scope} {input text middle next rest : List Char} {element : Element}
      {message : Message} (hText : MaximalText scope input text middle)
      (hArgument : DerivesArgument scope middle element next)
      (hMessage : DerivesMessage scope next message rest) :
      DerivesMessage scope input (textElements text ++ element :: message) rest

/-- An argument with its braces, or the sign for the number of a plural. Blanks around names and
keywords are left out of what it stands for. -/
inductive DerivesArgument : Scope → List Char → Element → List Char → Prop where
  | pound {rest : List Char} : DerivesArgument .plural ('#' :: rest) .pound rest
  | plain {scope : Scope} {id : String} {head rest : List Char} (hId : IsName isIdChar id)
      (hHead : Padded id head) :
      DerivesArgument scope ('\x7b' :: (head ++ '\x7d' :: rest)) (.argument id) rest
  | format {scope : Scope} {id : String} {f : Format} {head keyword rest : List Char}
      (hId : IsName isIdChar id) (hHead : Padded id head) (hKeyword : Padded f.text keyword) :
      DerivesArgument scope ('\x7b' :: (head ++ ',' :: (keyword ++ '\x7d' :: rest)))
        (f.element id none) rest
  | styled {scope : Scope} {id : String} {f : Format}
      {head keyword before input style after rest : List Char} (hId : IsName isIdChar id)
      (hHead : Padded id head) (hKeyword : Padded f.text keyword) (hBefore : Blanks before)
      (hStyle : MaximalText .style input style (after ++ '\x7d' :: rest)) (hNonempty : style ≠ [])
      (hAfter : Blanks after) :
      DerivesArgument scope
        ('\x7b' :: (head ++ ',' :: (keyword ++ ',' :: (before ++ input))))
        (f.element id (some (String.ofList style))) rest
  | plural {scope : Scope} {id : String} {clause : Clause} {offset : UInt32}
      {branches : List (Branch Message)} {head keyword before input middle rest : List Char}
      (hId : IsName isIdChar id) (hHead : Padded id head) (hClause : clause ≠ .select)
      (hKeyword : Padded clause.text keyword) (hBefore : Blanks before)
      (hOffset : DerivesOffset input offset middle)
      (hBranches : DerivesBranches .plural middle branches ('\x7d' :: rest))
      (hOther : ∃ branch ∈ branches, branch.selector = "other") :
      DerivesArgument scope
        ('\x7b' :: (head ++ ',' :: (keyword ++ ',' :: (before ++ input))))
        (clause.element id offset (Branch.merge branches)) rest
  | select {scope : Scope} {id : String} {branches : List (Branch Message)}
      {head keyword before input rest : List Char} (hId : IsName isIdChar id)
      (hHead : Padded id head) (hKeyword : Padded Clause.select.text keyword)
      (hBefore : Blanks before)
      (hBranches : DerivesBranches scope.ofSelect input branches ('\x7d' :: rest))
      (hOther : ∃ branch ∈ branches, branch.selector = "other") :
      DerivesArgument scope
        ('\x7b' :: (head ++ ',' :: (keyword ++ ',' :: (before ++ input))))
        (.select id (Branch.merge branches)) rest

/-- Selectors, each with its message in braces, as they are written. Repeated selectors are all
there; a clause keeps the last message of each. -/
inductive DerivesBranches :
    Scope → List Char → List (Branch Message) → List Char → Prop where
  | nil {scope : Scope} {rest : List Char} : DerivesBranches scope rest [] rest
  | cons {scope : Scope} {name : String} {message : Message} {branches : List (Branch Message)}
      {between input after next rest : List Char} (hName : IsName isSelectorChar name)
      (hBetween : Blanks between)
      (hMessage : DerivesMessage scope input message ('\x7d' :: (after ++ next)))
      (hAfter : Blanks after) (hOthers : DerivesBranches scope next branches rest) :
      DerivesBranches scope (name.toList ++ (between ++ '\x7b' :: input))
        (⟨name, message⟩ :: branches) rest

end

end LocaleMessage.Pattern
