import LocaleMessage.Proofs.Compiled.Arguments
import LocaleMessage.Proofs.Pattern.WellFormed

/-! What stands for a missing argument behaves as a value would. Between its braces it is neither a
number nor a date, and no selector of a pattern has a brace, so an argument that is bound to this
text takes the same way through the message as one that is missing. -/
namespace LocaleMessage

/-- The bindings, where every listed argument without a value has the text that is written for it.
Values that are there stay, also those of arguments that are not listed. -/
def Bindings.fill (bindings : Bindings) (ids : List String) : Bindings := fun id =>
  (bindings id).or (if id ∈ ids then some (.string (placeholder id)) else none)

theorem Bindings.isSome_fill (bindings : Bindings) {ids : List String} {id : String}
    (hId : id ∈ ids) : (bindings.fill ids id).isSome = true := by
  simp [fill, hId]

theorem trim_brace (text : List Char) :
    Text.trim ('\x7b' :: (text ++ ['\x7d'])) = '\x7b' :: (text ++ ['\x7d']) := by
  have hOpen : Text.isSpace '\x7b' = false := by decide
  have hClose : Text.isSpace '\x7d' = false := by decide
  simp [Text.trim, Text.trimLeft, hOpen, hClose]

theorem Decimal.ofText?_brace (text : List Char) : Decimal.ofText? ('\x7b' :: text) = none := by
  simp [Decimal.ofText?]

/-- Nor is it a sign or the beginning of one of the words for numbers that are not finite. -/
theorem Number.ofText?_brace (text : List Char) :
    Number.ofText? (String.ofList ('\x7b' :: text)) = none := by
  have hInteger : integerOfText? (String.ofList ('\x7b' :: text)) = none := by
    simp [integerOfText?, takeSign]
  have hDecimal : Binary64.ofText? (String.ofList ('\x7b' :: text)) = none := by
    simp [Binary64.ofText?, Binary64.ofTextWith?, takeSign, Decimal.ofText?_brace]
  rw [ofText?, hInteger, hDecimal]

/-- A year begins with a digit or with its sign, behind white space, and none of them is a brace. -/
theorem Calendar.Reader.year_brace (text : List Char) : year ('\x7b' :: text) = none := by
  have hSpace : Text.isSpace '\x7b' = false := by decide
  simp [year, spaces, Text.trimLeft, hSpace, digits, bind, StateT.bind, get, getThe,
    MonadStateOf.get, StateT.get]

theorem Calendar.Reader.bind_of_eq_none {α β : Type} {reader : Reader α} {text : List Char}
    (h : reader text = none) (next : α → Reader β) : (reader >>= next) text = none := by
  change (reader text >>= fun read => next read.1 read.2) = none
  rw [h]
  rfl

theorem Calendar.Reader.date_brace (text : List Char) : date ('\x7b' :: text) = none :=
  bind_of_eq_none (year_brace text) _

/-- A date-time begins with its date, so neither what stands between date and time nor the fraction
matters. -/
theorem Calendar.Reader.dateTime_brace (between : Reader Unit) (withFraction : Bool)
    (text : List Char) : dateTime between withFraction ('\x7b' :: text) = none :=
  bind_of_eq_none (date_brace text) _

/-- None of the forms that a date may have begins with a brace: a date-time with either separator,
and a date alone. -/
theorem DateTime.ofText?_brace (text : List Char) : DateTime.ofText? ('\x7b' :: text) = none := by
  simp [ofText?, ofMarkedText?, ofSpacedText?, ofDateText?, Calendar.Reader.whole?,
    Calendar.Reader.date_brace, Calendar.Reader.dateTime_brace]

theorem placeholder_toList (id : String) :
    (placeholder id).toList = '\x7b' :: (id.toList ++ ['\x7d']) := by
  simp [placeholder]

/-- What stands for an argument is no number, whatever the name of the argument is; a name may well
be made of digits. -/
theorem number?_placeholder (id : String) : (Value.string (placeholder id)).number? = none := by
  rw [Value.number?, placeholder_toList, trim_brace, Number.ofText?_brace]

/-- What stands for an argument is no date, even if its name is one. -/
theorem dateTime?_placeholder (id : String) : (Value.string (placeholder id)).dateTime? = none := by
  rw [Value.dateTime?, placeholder_toList, trim_brace, DateTime.ofText?_brace]

variable {m : Type → Type} [Monad m]

omit [Monad m] in
/-- In a style for numbers the text is written as it is, because it is none. The offset is not taken
off anything, and the style adds nothing. -/
theorem Environment.writeNumber_placeholder (env : Environment m) (offset : UInt32)
    (style : NumberStyle) (id : String) :
    env.writeNumber offset style (.string (placeholder id)) = placeholder id := by
  rw [writeNumber, number?_placeholder]
  rfl

omit [Monad m] in
theorem Environment.writeDateTime_placeholder (env : Environment m) (part : DatePart)
    (style : DateStyle) (id : String) :
    env.writeDateTime part style (.string (placeholder id)) = placeholder id := by
  rw [writeDateTime, dateTime?_placeholder]
  rfl

/-- Where a placeholder leads to the same as its absence, it makes no difference. An argument that
has a value is read as before. -/
theorem Environment.read_fill (env : Environment m) {ids : List String} {id : String}
    (hId : id ∈ ids) {next : Option Value → m Trace}
    (hNext : next (some (.string (placeholder id))) = next none) :
    (env.rebind (env.bindings.fill ids)).read id next = env.read id next := by
  rw [read, read]
  congr 1
  cases hValue : env.bindings id with
  | none =>
      have hFill : (env.rebind (env.bindings.fill ids)).bindings id =
          some (.string (placeholder id)) := by
        simp [rebind, Bindings.fill, hValue, hId]
      rw [hFill, hNext]
  | some value =>
      have hFill : (env.rebind (env.bindings.fill ids)).bindings id = some value := by
        simp [rebind, Bindings.fill, hValue]
      rw [hFill]

omit [Monad m] in
theorem Environment.writeNumber_rebind (env : Environment m) (bindings : Bindings)
    (offset : UInt32) (style : NumberStyle) :
    (env.rebind bindings).writeNumber offset style = env.writeNumber offset style :=
  rfl

omit [Monad m] in
theorem Environment.writeDateTime_rebind (env : Environment m) (bindings : Bindings)
    (part : DatePart) (style : DateStyle) :
    (env.rebind bindings).writeDateTime part style = env.writeDateTime part style :=
  rfl

/-- An argument that is read in order to be written gives the same text, and is noted as read in the
same place. -/
theorem Environment.readAndWrite_fill [LawfulMonad m] (env : Environment m) {ids : List String}
    {id : String} (hId : id ∈ ids) {text : Value → String}
    (hText : text (.string (placeholder id)) = placeholder id) :
    (env.rebind (env.bindings.fill ids)).readAndWrite id text = env.readAndWrite id text :=
  env.read_fill hId (by simp [hText])

/-- No argument that stands in braces can be meant by the selector. Selectors of a pattern are like
this, and those of a message that is built by hand need not be. -/
def BraceFree (selector : String) : Prop :=
  '\x7b' ∉ selector.toList

theorem find?_of_braceFree {branches : List (Branch Operation)} {selector : String}
    (h : ∀ branch ∈ branches, BraceFree branch.selector) (hSelector : ¬ BraceFree selector) :
    Branch.find? branches selector = none := by
  rw [Branch.find?, Option.map_eq_none_iff, List.find?_eq_none]
  intro branch hMem hEq
  obtain rfl : branch.selector = selector := of_decide_eq_true hEq
  exact hSelector (h branch hMem)

/-- With or without the sign for an exact number in front, the text for an argument has a brace in
it. -/
theorem not_braceFree_placeholder (before id : String) :
    ¬ BraceFree (before ++ placeholder id) := by
  simp [BraceFree, placeholder]

/-- An operation that chooses by selectors without braces runs alike with its arguments bound. The
proof is by induction on the operation, with its branches in the cases of clauses. -/
theorem Operation.Uses.trace_fill [LawfulMonad m] {operation : Operation} {ids : List String}
    (h : operation.Uses (· ∈ ids) BraceFree) (env : Environment m) :
    operation.trace (env.rebind (env.bindings.fill ids)) = operation.trace env := by
  induction h with
  | literal => simp only [trace]
  | @sequence parts hParts ih =>
      simp only [trace]
      clear hParts
      induction parts with
      | nil => simp only [traceAll]
      | cons first others ihOthers =>
          obtain ⟨hFirst, hOthers⟩ := List.forall_mem_cons.mp ih
          simp only [traceAll, hFirst, ihOthers hOthers]
  | simple hId =>
      simp only [trace]
      exact env.readAndWrite_fill hId rfl
  | number hId =>
      simp only [trace, Environment.writeNumber_rebind]
      exact env.readAndWrite_fill hId (env.writeNumber_placeholder ..)
  | dateTime hId =>
      simp only [trace, Environment.writeDateTime_rebind]
      exact env.readAndWrite_fill hId (env.writeDateTime_placeholder ..)
  | @plural id type offset options other hId hSelectors _ _ ih ihOther =>
      simp only [trace, traceBranch_eq, Branch.map_find?_congr ih, ihOther]
      -- No branch is for this text, and it is no number, so only the last branch is left.
      have hExact : Branch.find? options ("=" ++ placeholder id) = none :=
        find?_of_braceFree hSelectors (not_braceFree_placeholder "=" id)
      refine env.read_fill hId ?_
      simp only [Value.text, hExact, Option.map_none, number?_placeholder]
  | @select id options other hId hSelectors _ _ ih ihOther =>
      simp only [trace, traceBranch_eq, Branch.map_find?_congr ih, ihOther]
      have hChosen : Branch.find? options (placeholder id) = none :=
        find?_of_braceFree hSelectors (not_braceFree_placeholder "" id)
      refine env.read_fill hId ?_
      simp only [Value.text, hChosen, Option.map_none, Option.getD_none]

open Pattern

/-- No character of a selector is a brace, by the class that selectors are read with. -/
theorem braceFree_of_isName {selector : String} (h : IsName Reader.isSelectorChar selector) :
    BraceFree selector := by
  intro hMem
  have hBrace := h.2 _ hMem
  simp [Reader.isSelectorChar] at hBrace

theorem braceFree_of_wellFormed {options : List (Branch Message)}
    (h : WellFormedSelectors (options.map Branch.selector)) :
    ∀ branch ∈ options, BraceFree branch.selector :=
  fun _ hMem => braceFree_of_isName (h.names _ (List.mem_map_of_mem hMem))

/-- Well-formed elements choose by selectors without braces, at every depth. -/
theorem Element.Uses.of_wellFormed {reads selects : String → Prop} {belowPlural : Bool}
    {element : Element} (h : element.Uses reads selects)
    (hWellFormed : WellFormedElement belowPlural element) : element.Uses reads BraceFree := by
  induction h generalizing belowPlural with
  | literal => exact .literal
  | pound => exact .pound
  | argument hId => exact .argument hId
  | typed hId => exact .typed hId
  | plural hId _ _ ih =>
      obtain ⟨_, hSelectors, hOptions⟩ := hWellFormed
      have hElements := wellFormedElement_of_branches hOptions
      exact .plural hId (braceFree_of_wellFormed hSelectors) fun branch hMem element hElement =>
        ih branch hMem element hElement (hElements branch hMem element hElement)
  | select hId _ _ ih =>
      obtain ⟨_, hSelectors, hOptions⟩ := hWellFormed
      have hElements := wellFormedElement_of_branches hOptions
      exact .select hId (braceFree_of_wellFormed hSelectors) fun branch hMem element hElement =>
        ih branch hMem element hElement (hElements branch hMem element hElement)

/-- What a pattern has been read as uses the arguments of its message, and chooses by selectors
without braces. Both are what filling in the arguments needs. -/
theorem uses_braceFree_of_parse {pattern : String} {message : Message}
    (h : parse pattern = .ok message) :
    ∀ element ∈ message, element.Uses (· ∈ message.argumentIds) BraceFree := by
  have hWellFormed : WellFormedMessage false message := (derives_of_parseChars h).wellFormed
  exact fun element hElement => (uses_argumentIds message element hElement).of_wellFormed
    (wellFormedElement_of_mem hWellFormed element hElement)

/-- A missing argument is written as if it were bound to the text that stands for it: with all of a
message's arguments bound in this way, the text is that of the message that is not strict, and
a strict message is written as well. -/
theorem format_fill [LawfulMonad m] {pattern : String} {message : Message}
    (h : parse pattern = .ok message) (locale : String) (formatters : Formatters m)
    (bindings : Bindings) :
    let format (strict : Bool) (bindings : Bindings) :=
      (CompiledMessage.ofMessage message ⟨locale, strict, formatters⟩).format bindings
    ∃ written : m String, format false bindings = .ok <$> written ∧
      ∀ strict, format strict (bindings.fill message.argumentIds) = .ok <$> written := by
  intro format
  let env : Environment m := ⟨bindings, locale, formatters⟩
  have hUses := Operation.uses_ofMessage (uses_braceFree_of_parse h)
  have hReads := hUses.readsOnly_trace env
  refine ⟨Trace.text <$> (Operation.ofMessage message).trace env, ?_, fun strict => ?_⟩
  · have hLenient := format_eq_answer message ⟨locale, false, formatters⟩ bindings
    simpa only [Trace.answer_lenient, Functor.map_map] using hLenient
  · have hFormat := format_eq_answer message ⟨locale, strict, formatters⟩
      (bindings.fill message.argumentIds)
    have hTrace : (Operation.ofMessage message).trace
        ⟨bindings.fill message.argumentIds, locale, formatters⟩ =
          (Operation.ofMessage message).trace env := hUses.trace_fill env
    rw [hTrace, map_eq_pure_bind] at hFormat
    rw [Functor.map_map, map_eq_pure_bind]
    refine hFormat.trans (hReads _ _ _ fun t ht => ?_)
    rw [Trace.answer_of_bound fun id hId => bindings.isSome_fill (ht id hId)]

/-- The number is not one, so its exact branch is not taken, and the date is written in braces. -/
theorem format_fill_nested : ∃ message, parse ("\x7bn,plural,offset:1 =5\x7b\x7ba\x7d\x7d" ++
      "other\x7b#\x7bg,select,x\x7b\x7dother\x7b\x7bd,date\x7d\x7d\x7d\x7d\x7d") = .ok message ∧
    (CompiledMessage.ofMessage message
      (⟨"en", true, ⟨fun _ _ _ => .one, fun n _ _ => n.text, fun _ _ _ _ => ""⟩⟩ :
        CompileOptions Id)).format
      ((Bindings.ofList [("g", .string "y")]).fill message.argumentIds) =
        .ok "\x7bn\x7d\x7bd\x7d" := by
  have hParse : parse ("\x7bn,plural,offset:1 =5\x7b\x7ba\x7d\x7d" ++
      "other\x7b#\x7bg,select,x\x7b\x7dother\x7b\x7bd,date\x7d\x7d\x7d\x7d\x7d") =
        .ok [.plural "n" false 1 [⟨"=5", [.argument "a"]⟩,
          ⟨"other", [.pound, .select "g" [⟨"x", []⟩, ⟨"other", [.typed "d" .date none]⟩]]⟩]] := by
    unfold parse
    simp only [String.toList_append, String.reduceToList]
    rfl
  obtain ⟨written, hLenient, hFilled⟩ := format_fill hParse "en"
    (⟨fun _ _ _ => .one, fun n _ _ => n.text, fun _ _ _ _ => ""⟩ : Formatters Id)
    (.ofList [("g", .string "y")])
  exact ⟨_, hParse, (hFilled true).trans (hLenient.symm.trans rfl)⟩

end LocaleMessage
