import LocaleMessage.Proofs.Compiled.Running

/-! Messages written straight from their trees, with the nearest plural at hand for the number
sign and all branches in place. Compiling a message and running it comes to the same. -/
namespace LocaleMessage

variable {m : Type → Type} [Monad m]

/-- Writes an argument: what `text` makes of its value, or its name in braces. In the second case it
is noted as missing. -/
def interpretArgument (env : Environment m) (id : String) (text : Value → String) :
    Evaluation m String :=
  withArgument env id (fun value => return text value) (return "\x7b" ++ id ++ "\x7d")

/-- What is written for a value that is asked for as something it may not be. -/
def formattedOr {α : Type} (view : Value → Option α) (text : α → String) (value : Value) :
    String :=
  ((view value).map text).getD value.text

mutual

/-- Writes an element. Below a plural `pound` has its argument and its offset. -/
def interpretElement (env : Environment m) (pound : Option (String × UInt32)) :
    Element → Evaluation m String
  | .literal text => return text
  | .argument id => interpretArgument env id Value.text
  | .typed id .number style =>
    interpretArgument env id <| formattedOr Value.number? fun n =>
      env.formatters.number n env.locale (NumberStyle.ofText style)
  | .typed id .date style =>
    interpretArgument env id <| formattedOr Value.dateTime? fun dt =>
      env.formatters.dateTime dt env.locale .date (DateStyle.ofText style)
  | .typed id .time style =>
    interpretArgument env id <| formattedOr Value.dateTime? fun dt =>
      env.formatters.dateTime dt env.locale .time (DateStyle.ofText style)
  | .plural id ordinal offset options =>
    let branch? (selector : String) := interpretBranch env (some (id, offset)) selector options
    let other := (branch? "other").getD (return "")
    let chosen (value : Value) :=
      match branch? ("=" ++ value.text), value.number? with
      | some exact, _ => exact
      | none, none => other
      | none, some n => do
        let type := if ordinal then PluralType.ordinal else PluralType.cardinal
        let category ← env.formatters.category (n.minus offset) env.locale type
        (branch? category.text).getD other
    withArgument env id chosen other
  | .select id options =>
    let branch? (selector : String) := interpretBranch env pound selector options
    let other := (branch? "other").getD (return "")
    withArgument env id (fun value => (branch? value.text).getD other) other
  | .pound =>
    match pound with
    | none => return "#"
    | some (id, offset) =>
      interpretArgument env id <| formattedOr Value.number? fun n =>
        env.formatters.number (n.minus offset) env.locale .default

/-- Writes elements from left to right, and so notes what is missing in that order. -/
def interpretMessage (env : Environment m) (pound : Option (String × UInt32)) :
    List Element → Evaluation m String
  | [] => return ""
  | element :: rest => do
    let first ← interpretElement env pound element
    return first ++ (← interpretMessage env pound rest)

/-- Writes the last branch with the selector, if there is one. Earlier ones with the same selector
are passed over. -/
def interpretBranch (env : Environment m) (pound : Option (String × UInt32)) (selector : String) :
    List (Branch (List Element)) → Option (Evaluation m String)
  | [] => none
  | ⟨name, message⟩ :: rest =>
    (interpretBranch env pound selector rest).or
      (if name = selector then some (interpretMessage env pound message) else none)

end

/-- Writes a message with the given arguments. A strict message with something missing is an error
that names all of it. -/
def interpret (message : Message) (options : CompileOptions m) (bindings : Bindings) :
    m (Except FormatError String) := do
  let (text, missing) ←
    (interpretMessage ⟨bindings, options.locale, options.formatters⟩ none message).run []
  return if options.strict = true ∧ missing ≠ [] then .error (.missing missing) else .ok text

/-- An operation that writes an argument does what writing it from the tree does, the placeholder
included. -/
theorem write_eq_interpretArgument [LawfulMonad m] (env : Environment m) (id : String)
    (text : Value → String) : env.write id text = interpretArgument env id text := by
  rw [Environment.write, Environment.lookup_bind]
  rfl

omit [Monad m] in
theorem writeNumber_eq_formattedOr (env : Environment m) (offset : UInt32) (style : NumberStyle) :
    env.writeNumber offset style =
      formattedOr Value.number? fun n => env.formatters.number (n.minus offset) env.locale style := by
  funext value
  unfold Environment.writeNumber formattedOr
  cases value.number? <;> rfl

omit [Monad m] in
theorem writeDateTime_eq_formattedOr (env : Environment m) (part : DatePart) (style : DateStyle) :
    env.writeDateTime part style =
      formattedOr Value.dateTime? fun dt => env.formatters.dateTime dt env.locale part style := by
  funext value
  unfold Environment.writeDateTime formattedOr
  cases value.dateTime? <;> rfl

mutual

/-- A compiled element does what the element says, whatever plural stands around it. The three
statements go by recursion on the tree, with the plural carried down. -/
theorem evaluate_ofElement [LawfulMonad m] (env : Environment m) (pound : Option (String × UInt32)) :
    (element : Element) →
      (Operation.ofElement pound element).evaluate env = interpretElement env pound element
  | .literal _ => by simp [Operation.ofElement, Operation.evaluate, interpretElement]
  | .argument id => by
      rw [Operation.ofElement, Operation.evaluate, write_eq_interpretArgument, interpretElement]
  | .typed id .number style => by
      rw [Operation.ofElement, Operation.evaluate, write_eq_interpretArgument,
        writeNumber_eq_formattedOr, interpretElement]
      simp only [Number.minus_zero]
  | .typed id .date style | .typed id .time style => by
      rw [Operation.ofElement, Operation.evaluate, write_eq_interpretArgument,
        writeDateTime_eq_formattedOr, interpretElement]
  | .plural id ordinal offset options => by
      have hBranch (selector : String) := find?_ofOptions env (some (id, offset)) selector options
      simp only [Operation.ofElement, Operation.evaluate, interpretElement,
        Environment.lookup_bind, Environment.category_bind, Operation.evaluateBranch_exact,
        Operation.evaluateBranch_getD, hBranch]
      simp only [Operation.evaluate_lastOther, hBranch]
      congr 1
      funext value
      cases interpretBranch env (some (id, offset)) ("=" ++ value.text) options with
      | some exact => rfl
      | none => cases value.number? <;> rfl
  | .select id options => by
      have hBranch (selector : String) := find?_ofOptions env pound selector options
      simp only [Operation.ofElement, Operation.evaluate, interpretElement,
        Environment.lookup_bind, Operation.evaluateBranch_getD, hBranch]
      simp only [Operation.evaluate_lastOther, hBranch]
  | .pound => by
      cases pound with
      | none => simp [Operation.ofElement, Operation.evaluate, interpretElement]
      | some target =>
          obtain ⟨id, offset⟩ := target
          simp only [Operation.ofElement, Operation.evaluate, interpretElement,
            write_eq_interpretArgument, writeNumber_eq_formattedOr]

theorem evaluateAll_ofElements [LawfulMonad m] (env : Environment m) (pound : Option (String × UInt32)) :
    (message : List Element) →
      Operation.evaluateAll env (Operation.ofElements pound message) =
        interpretMessage env pound message
  | [] => by rw [Operation.ofElements, Operation.evaluateAll, interpretMessage]
  | element :: rest => by
      rw [Operation.ofElements, Operation.evaluateAll, interpretMessage,
        evaluate_ofElement env pound element, evaluateAll_ofElements env pound rest]

/-- Of compiled branches the one that is looked for is the compiled last branch with its
selector. -/
theorem find?_ofOptions [LawfulMonad m] (env : Environment m) (pound : Option (String × UInt32))
    (selector : String) : (options : List (Branch (List Element))) →
      (Branch.find? (Operation.ofOptions pound options).reverse selector).map
        (Operation.evaluate env) = interpretBranch env pound selector options
  | [] => by rw [Operation.ofOptions, interpretBranch]; rfl
  | ⟨name, message⟩ :: rest => by
      rw [Operation.ofOptions, Branch.find?_reverse_cons, interpretBranch,
        ← find?_ofOptions env pound selector rest, ← evaluateAll_ofElements env pound message,
        ← Operation.evaluate_ofParts]
      by_cases h : name = selector <;>
        cases Branch.find? (Operation.ofOptions pound rest).reverse selector <;> simp [h]

end

theorem evaluate_ofMessage [LawfulMonad m] (env : Environment m) (message : Message) :
    (Operation.ofMessage message).evaluate env = interpretMessage env none message := by
  rw [Operation.ofMessage, Operation.evaluate_ofParts, evaluateAll_ofElements]

/-- Compiling a message and writing it is writing it from its tree, with the same text, the same
missing arguments in the same order, and the same questions to the collaborators. -/
theorem format_ofMessage [LawfulMonad m] (message : Message) (options : CompileOptions m)
    (bindings : Bindings) :
    (CompiledMessage.ofMessage message options).format bindings =
      interpret message options bindings := by
  rw [CompiledMessage.format, interpret, CompiledMessage.ofMessage, evaluate_ofMessage]
  refine bind_congr fun result => ?_
  obtain ⟨text, missing⟩ := result
  cases options.strict <;> cases missing <;> simp

/-- The number sign is that of the inner plural, through a select whose argument is missing. -/
theorem format_ofMessage_nested :
    (CompiledMessage.ofMessage
      [.plural "a" false 0 [⟨"other", [.pound, .literal " total, ", .plural "b" false 1
        [⟨"other", [.select "g" [⟨"other", [.pound, .literal " more"]⟩]]⟩]]⟩]]
      (⟨"en", false, ⟨fun _ _ _ => .other, fun n _ _ => n.text, fun _ _ _ _ => ""⟩⟩ :
        CompileOptions Id)).format
      (.ofList [("a", .number 10), ("b", .number 5)]) = .ok "10 total, 4 more" := by
  rw [format_ofMessage]
  rfl

end LocaleMessage
