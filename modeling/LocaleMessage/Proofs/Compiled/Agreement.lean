import LocaleMessage.Proofs.Compiled.Interpretation
import LocaleMessage.Proofs.Text.Blank

/-! Runs that come to the same although their arguments or their locales differ. A message sees of a
value its text, its number and its date, and of those only what the collaborators make of them, so
where two runs agree on that they agree on the whole. -/
namespace LocaleMessage

mutual

/-- Whether an argument is written as a date or a time, in the element or in any of its branches. -/
def Element.hasDates : Element → Bool
  | .literal _ | .argument _ | .pound => false
  | .typed _ kind _ => kind ≠ .number
  | .plural _ _ _ options | .select _ options => optionsHaveDates options

/-- Whether any of the elements is written as a date or has one in a branch. -/
def messageHasDates : List Element → Bool
  | [] => false
  | element :: rest => element.hasDates || messageHasDates rest

def optionsHaveDates : List (Branch (List Element)) → Bool
  | [] => false
  | ⟨_, message⟩ :: rest => messageHasDates message || optionsHaveDates rest

end

/-- Whether a message writes an argument as a date or a time, at any depth. -/
def Message.hasDates (message : Message) : Bool :=
  messageHasDates message

/-- Related options are both absent, or both there with related contents. -/
theorem exists_of_optionRel {α β : Type*} {Related : α → β → Prop} {x : Option α} {y : Option β}
    (h : Option.Rel Related x y) :
    x = none ∧ y = none ∨ ∃ a b, x = some a ∧ y = some b ∧ Related a b := by
  cases h with
  | none => exact Or.inl ⟨rfl, rfl⟩
  | some hRelated => exact Or.inr ⟨_, _, rfl, rfl, hRelated⟩

theorem optionRel_refl {α : Type*} {Related : α → α → Prop} (h : ∀ a, Related a a)
    (x : Option α) : Option.Rel Related x x := by
  cases x with
  | none => exact .none
  | some a => exact .some (h a)

variable {m : Type → Type}

/-- Two numbers, one for each of two runs, that are written alike in every style and have the same
categories, whatever offset is taken off both. They need not be equal. -/
structure Environment.NumbersAgree (env env' : Environment m) (n n' : Number) : Prop where
  text : ∀ offset style, env.formatters.number (n.minus offset) env.locale style =
    env'.formatters.number (n'.minus offset) env'.locale style
  category : ∀ offset type, env.formatters.category (n.minus offset) env.locale type =
    env'.formatters.category (n'.minus offset) env'.locale type

/-- Two dates, one for each of two runs, that are written alike in every style. -/
def Environment.DatesAgree (env env' : Environment m) (dt dt' : DateTime) : Prop :=
  ∀ part style, env.formatters.dateTime dt env.locale part style =
    env'.formatters.dateTime dt' env'.locale part style

/-- Two values, one for each of two runs, that messages cannot tell apart. Messages without dates do
not look at the values as dates, so nothing is asked of them there. -/
structure Environment.ValuesAgree (env env' : Environment m) (dates : Prop) (value value' : Value) :
    Prop where
  text : value.text = value'.text
  number : Option.Rel (env.NumbersAgree env') value.number? value'.number?
  dateTime : dates → Option.Rel (env.DatesAgree env') value.dateTime? value'.dateTime?

/-- Two runs in which the same arguments are bound, to values that messages cannot tell apart. -/
def Environment.Agrees (env env' : Environment m) (dates : Prop) : Prop :=
  ∀ id, Option.Rel (env.ValuesAgree env' dates) (env.bindings id) (env'.bindings id)

/-- A value agrees with itself in two runs whose collaborators write the same for it. -/
theorem Environment.ValuesAgree.refl_of {env env' : Environment m} {dates : Prop}
    (hNumbers : ∀ n, env.NumbersAgree env' n n) (hDates : ∀ dt, env.DatesAgree env' dt dt)
    (value : Value) : env.ValuesAgree env' dates value value where
  text := rfl
  number := optionRel_refl hNumbers value.number?
  dateTime _ := optionRel_refl hDates value.dateTime?

/-- With the same collaborators and the same locale it is enough that the values of one argument
agree. -/
theorem Environment.agrees_insert {locale : String} {formatters : Formatters m}
    {bindings : Bindings} {dates : Prop} {value value' : Value} (id : String)
    (h : Environment.ValuesAgree ⟨bindings.insert id value, locale, formatters⟩
      ⟨bindings.insert id value', locale, formatters⟩ dates value value') :
    Environment.Agrees ⟨bindings.insert id value, locale, formatters⟩
      ⟨bindings.insert id value', locale, formatters⟩ dates := by
  intro other
  by_cases hOther : other = id
  · simp only [Bindings.insert, hOther, if_true]
    exact .some h
  · simp only [Bindings.insert, hOther, if_false]
    refine optionRel_refl (fun value => ?_) (bindings other)
    apply ValuesAgree.refl_of
    · exact fun n => ⟨fun _ _ => rfl, fun _ _ => rfl⟩
    · exact fun dt _ _ => rfl

variable [Monad m] {env env' : Environment m} {dates : Prop}

/-- Going on with agreeing values comes to the same if what goes on does, and a missing argument is
missing in both. -/
theorem withArgument_congr {α : Type} {id : String} {found found' : Value → Evaluation m α}
    {missing missing' : Evaluation m α} (h : env.Agrees env' dates)
    (hFound : ∀ value value', env.ValuesAgree env' dates value value' →
      found value = found' value')
    (hMissing : missing = missing') :
    withArgument env id found missing = withArgument env' id found' missing' := by
  unfold withArgument
  rcases exists_of_optionRel (h id) with ⟨hNone, hNone'⟩ | ⟨value, value', hSome, hSome', hValues⟩
  · simp only [hNone, hNone', hMissing]
  · simp only [hSome, hSome', hFound value value' hValues]

theorem interpretArgument_congr {id : String} {text text' : Value → String}
    (h : env.Agrees env' dates)
    (hText : ∀ value value', env.ValuesAgree env' dates value value' → text value = text' value') :
    interpretArgument env id text = interpretArgument env' id text' :=
  withArgument_congr h (fun value value' hValues => by rw [hText value value' hValues]) rfl

omit [Monad m] in
theorem formattedOr_congr {α β : Type} {Related : α → β → Prop} {view : Value → Option α}
    {view' : Value → Option β} {text : α → String} {text' : β → String} {value value' : Value}
    (hText : value.text = value'.text) (hView : Option.Rel Related (view value) (view' value'))
    (hRelated : ∀ a b, Related a b → text a = text' b) :
    formattedOr view text value = formattedOr view' text' value' := by
  unfold formattedOr
  rcases exists_of_optionRel hView with ⟨hNone, hNone'⟩ | ⟨a, b, hSome, hSome', hView⟩
  · simp [hNone, hNone', hText]
  · simp [hSome, hSome', hRelated a b hView]

mutual

/-- What runs agree on element by element, they agree on throughout: in either of them every clause
takes the same branch. -/
theorem interpretElement_congr (h : env.Agrees env' dates) (pound : Option (String × UInt32)) :
    (element : Element) → (element.hasDates = true → dates) →
      interpretElement env pound element = interpretElement env' pound element
  | .literal _, _ => by simp only [interpretElement]
  | .argument id, _ => by
      simp only [interpretElement]
      exact interpretArgument_congr h fun _ _ hValues => hValues.text
  | .typed id .number style, _ => by
      simp only [interpretElement]
      refine interpretArgument_congr h fun _ _ hValues => ?_
      refine formattedOr_congr hValues.text hValues.number fun n n' hNumbers => ?_
      simpa only [Number.minus_zero] using hNumbers.text 0 (NumberStyle.ofText style)
  | .typed id .date style, hDates | .typed id .time style, hDates => by
      simp only [interpretElement]
      refine interpretArgument_congr h fun _ _ hValues => ?_
      exact formattedOr_congr hValues.text (hValues.dateTime (hDates rfl))
        fun _ _ hDateTimes => hDateTimes _ _
  | .plural id ordinal offset options, hDates => by
      have hBranch (selector : String) :=
        interpretBranch_congr h (some (id, offset)) selector options hDates
      simp only [interpretElement, hBranch]
      refine withArgument_congr h (fun value value' hValues => ?_) rfl
      rw [hValues.text]
      cases interpretBranch env' (some (id, offset)) ("=" ++ value'.text) options with
      | some exact => rfl
      | none =>
          rcases exists_of_optionRel hValues.number with
            ⟨hNone, hNone'⟩ | ⟨n, n', hSome, hSome', hNumbers⟩
          · simp only [hNone, hNone']
          · simp only [hSome, hSome', hNumbers.category]
  | .select id options, hDates => by
      have hBranch (selector : String) := interpretBranch_congr h pound selector options hDates
      simp only [interpretElement, hBranch]
      refine withArgument_congr h (fun value value' hValues => ?_) rfl
      rw [hValues.text]
  | .pound, _ => by
      cases pound with
      | none => simp only [interpretElement]
      | some target =>
          obtain ⟨id, offset⟩ := target
          simp only [interpretElement]
          refine interpretArgument_congr h fun _ _ hValues => ?_
          exact formattedOr_congr hValues.text hValues.number fun _ _ hNumbers => hNumbers.text _ _

/-- Elements one behind the other agree if each of them does. -/
theorem interpretMessage_congr (h : env.Agrees env' dates) (pound : Option (String × UInt32)) :
    (message : List Element) → (messageHasDates message = true → dates) →
      interpretMessage env pound message = interpretMessage env' pound message
  | [], _ => by simp only [interpretMessage]
  | element :: rest, hDates => by
      simp only [messageHasDates, Bool.or_eq_true] at hDates
      simp only [interpretMessage,
        interpretElement_congr h pound element fun hElement => hDates (Or.inl hElement),
        interpretMessage_congr h pound rest fun hRest => hDates (Or.inr hRest)]

theorem interpretBranch_congr (h : env.Agrees env' dates) (pound : Option (String × UInt32))
    (selector : String) : (options : List (Branch (List Element))) →
      (optionsHaveDates options = true → dates) →
        interpretBranch env pound selector options = interpretBranch env' pound selector options
  | [], _ => by simp only [interpretBranch]
  | ⟨name, message⟩ :: rest, hDates => by
      simp only [optionsHaveDates, Bool.or_eq_true] at hDates
      simp only [interpretBranch,
        interpretMessage_congr h pound message fun hMessage => hDates (Or.inl hMessage),
        interpretBranch_congr h pound selector rest fun hRest => hDates (Or.inr hRest)]

end

/-- Compiled messages give the same in runs that agree. Locales and collaborators may differ as long
as what they write does not. -/
theorem CompiledMessage.format_congr [LawfulMonad m] {message : Message}
    {options options' : CompileOptions m} {bindings bindings' : Bindings}
    (hStrict : options.strict = options'.strict)
    (h : Environment.Agrees ⟨bindings, options.locale, options.formatters⟩
      ⟨bindings', options'.locale, options'.formatters⟩ dates)
    (hDates : message.hasDates = true → dates) :
    (ofMessage message options).format bindings = (ofMessage message options').format bindings' := by
  simp only [format, ofMessage, evaluate_ofMessage, interpretMessage_congr h none message hDates,
    hStrict]
  rfl

theorem isSpace_of_mem_intText {i : Int} {c : Char} (h : c ∈ (intText i).toList) :
    Text.isSpace c = false := by
  have hDigit (h : c ∈ decimalDigits i.natAbs) : Text.isSpace c = false :=
    Text.isSpace_of_isDigit (isDigit_of_mem_decimalDigits h)
  rw [intText, String.toList_ofList] at h
  split_ifs at h
  · rcases List.mem_cons.mp h with rfl | h
    · decide
    · exact hDigit h
  · exact hDigit h

/-- The text of an integer is seen as the number that it is the text of. Trimming takes nothing off
it. -/
theorem number?_intText (i : Int64) :
    (Value.string (intText i.toInt)).number? = (Value.number i).number? := by
  have hTrim : Text.trim (intText i.toInt).toList = (intText i.toInt).toList :=
    Text.trim_of_forall fun c hMem => isSpace_of_mem_intText hMem
  simp only [Value.number?, hTrim, String.ofList_toList, Number.ofText?_intText]

/-- An integer given as its digits is written like the integer itself, in messages without dates:
in every style, after the same choices, and with the same questions to the collaborators. -/
theorem format_integer_text [LawfulMonad m] {message : Message} (h : message.hasDates = false)
    (options : CompileOptions m) (bindings : Bindings) (id : String) (i : Int64) :
    (CompiledMessage.ofMessage message options).format
        (bindings.insert id (.string (intText i.toInt))) =
      (CompiledMessage.ofMessage message options).format (bindings.insert id (.number i)) := by
  have hNoDates : message.hasDates = true → False := by simp [h]
  refine CompiledMessage.format_congr rfl (Environment.agrees_insert id ?_) hNoDates
  refine ⟨rfl, ?_, False.elim⟩
  rw [number?_intText]
  exact optionRel_refl (fun n => ⟨fun _ _ => rfl, fun _ _ => rfl⟩) _

/-- The least integer selects its exact branch and its key, and leaves the range of integers where
the offset is taken off. -/
theorem format_integer_text_least :
    (CompiledMessage.ofMessage
      [.plural "n" false 1 [⟨"=-9223372036854775808", [.pound, .select "n"
        [⟨"-9223372036854775808", [.typed "n" .number (some "integer")]⟩, ⟨"other", []⟩]]⟩,
          ⟨"other", []⟩]]
      (⟨"en", true, ⟨fun _ _ _ => .other,
        fun n _ _ => if n = .integer Int64.minValue then "least" else "beyond, ",
        fun _ _ _ _ => ""⟩⟩ : CompileOptions Id)).format
      (Bindings.empty.insert "n" (.string (intText Int64.minValue.toInt))) =
        .ok "beyond, least" := by
  rw [format_integer_text (by decide)]
  rfl

end LocaleMessage
