import LocaleMessage.Compiled.Operation
import LocaleMessage.Formatters
import LocaleMessage.Value

/-!
Running operations. An argument that is not bound is remembered, once, and written as its name
in braces.
-/

namespace LocaleMessage

/-- The values of arguments. -/
abbrev Bindings := String → Option Value

namespace Bindings

def empty : Bindings := fun _ => none

/-- Binds an argument to a value. -/
def insert (bindings : Bindings) (id : String) (value : Value) : Bindings := fun id' =>
  if id' = id then some value else bindings id'

/-- The bindings of a list. The last one for an argument counts. -/
def ofList (entries : List (String × Value)) : Bindings :=
  entries.foldl (fun bindings (id, value) => bindings.insert id value) empty

end Bindings

/-- What running an operation depends on. -/
structure Environment (m : Type → Type) where
  bindings : Bindings
  locale : String
  formatters : Formatters m

/-- Runs that remember the arguments found missing, in the order of first reading. -/
abbrev Evaluation (m : Type → Type) := StateT (List String) m

/-- An argument as it is written when it is missing. -/
def placeholder (id : String) : String :=
  "\x7b" ++ id ++ "\x7d"

variable {m : Type → Type} [Monad m]

/-- Reads an argument, and remembers it if it is missing. -/
def Environment.lookup (env : Environment m) (id : String) : Evaluation m (Option Value) :=
  fun missing =>
    match env.bindings id with
    | some value => pure (some value, missing)
    | none => pure (none, insertLast id missing)

/-- Writes a value as a number, where it is one. -/
def Environment.writeNumber (env : Environment m) (offset : UInt32) (style : NumberStyle)
    (value : Value) : String :=
  match value.number? with
  | some n => env.formatters.number (n.minus offset) env.locale style
  | none => value.text

/-- Writes a value as a date or a time, where it is one. -/
def Environment.writeDateTime (env : Environment m) (part : DatePart)
    (style : DateStyle) (value : Value) : String :=
  match value.dateTime? with
  | some dt => env.formatters.dateTime dt env.locale part style
  | none => value.text

/-- Reads an argument and writes it. -/
def Environment.write (env : Environment m) (id : String) (text : Value → String) :
    Evaluation m String := do
  match ← env.lookup id with
  | some value => return text value
  | none => return placeholder id

/-- The category that selects a branch of a plural, for values that are numbers. -/
def Environment.category (env : Environment m) (type : PluralType) (offset : UInt32)
    (value : Value) : Evaluation m (Option PluralCategory) :=
  match value.number? with
  | some n => do
    return some (← env.formatters.category (n.minus offset) env.locale type)
  | none => return none

namespace Operation

mutual

/-- The text that an operation writes. -/
def evaluate (env : Environment m) : Operation → Evaluation m String
  | literal text => return text
  | sequence parts => evaluateAll env parts
  | simple id => env.write id Value.text
  | number id offset style => env.write id (env.writeNumber offset style)
  | dateTime id part style => env.write id (env.writeDateTime part style)
  | plural id type offset options other => do
    match ← env.lookup id with
    | none => evaluate env other
    | some value =>
      match evaluateBranch env ("=" ++ value.text) options with
      | some chosen => chosen
      | none =>
        match ← env.category type offset value with
        | none => evaluate env other
        | some category => (evaluateBranch env category.text options).getD (evaluate env other)
  | select id options other => do
    match ← env.lookup id with
    | none => evaluate env other
    | some value => (evaluateBranch env value.text options).getD (evaluate env other)

/-- The texts of operations, one after the other. -/
def evaluateAll (env : Environment m) : List Operation → Evaluation m String
  | [] => return ""
  | operation :: rest => do
    let first ← evaluate env operation
    return first ++ (← evaluateAll env rest)

/-- The run of the first branch with a selector. -/
def evaluateBranch (env : Environment m) (selector : String) :
    List (Branch Operation) → Option (Evaluation m String)
  | [] => none
  | ⟨name, operation⟩ :: rest =>
    if name = selector then some (evaluate env operation) else evaluateBranch env selector rest

end

end Operation

end LocaleMessage
