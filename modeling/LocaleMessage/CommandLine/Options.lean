/-!
Options and operands of a command line, read from left to right.
-/

namespace LocaleMessage.CommandLine

/-- Why reading ends before the last argument. -/
inductive Stop where
  | usage
  | help
  | version
deriving DecidableEq, Repr

/-- What an option does. -/
inductive OptionKind where
  | flag
  /-- Takes a value and may be given once. -/
  | value
  /-- Takes a value and may be given again. -/
  | values
  /-- Ends reading. -/
  | stop (reason : Stop)
deriving DecidableEq, Repr

structure OptionSpec where
  name : String
  letter : Option Char
  kind : OptionKind
deriving DecidableEq, Repr

/-- What arguments amount to. Flags have an empty value. -/
inductive Item where
  | option (spec : OptionSpec) (value : String)
  | operand (text : String)
  | stop (reason : Stop)
deriving DecidableEq, Repr

/-- What one argument amounts to by itself. -/
inductive Shape where
  | items (items : List Item)
  /-- The last option of the argument takes the next argument as its value. -/
  | pending (items : List Item) (spec : OptionSpec)
  | operand
  /-- All arguments behind are operands. -/
  | endOfOptions
deriving DecidableEq, Repr

/-- Whether an argument is taken for options. A single hyphen is not. -/
def looksLikeOption (arg : String) : Bool :=
  match arg.toList with
  | '-' :: _ :: _ => true
  | _ => false

/-- Reads the letters of an argument. The value of an option may follow its letter. -/
def readLetters (specs : List OptionSpec) (read : List Item) : List Char → Shape
  | [] => .items read
  | c :: rest =>
    match specs.find? (·.letter = some c) with
    | none => .items (read ++ [.stop .usage])
    | some spec =>
      match spec.kind, rest with
      | .flag, _ => readLetters specs (read ++ [.option spec ""]) rest
      | .stop reason, _ => .items (read ++ [.stop reason])
      | _, [] => .pending read spec
      | _, '=' :: value => .items (read ++ [.option spec (String.ofList value)])
      | _, value => .items (read ++ [.option spec (String.ofList value)])

/-- Reads an option by its name. Its value may follow an equals sign. -/
def readName (specs : List OptionSpec) (text : List Char) : Shape :=
  let name := String.ofList (text.takeWhile (· ≠ '='))
  match specs.find? (·.name = name) with
  | none => .items [.stop .usage]
  | some spec =>
    match spec.kind, text.dropWhile (· ≠ '=') with
    | .flag, [] => .items [.option spec ""]
    | .stop reason, [] => .items [.stop reason]
    | .flag, _ | .stop _, _ => .items [.stop .usage]
    | _, [] => .pending [] spec
    | _, _ :: value => .items [.option spec (String.ofList value)]

/-- What an argument amounts to. -/
def classify (specs : List OptionSpec) (arg : String) : Shape :=
  match arg.toList with
  | ['-', '-'] => .endOfOptions
  | '-' :: '-' :: text => readName specs text
  | '-' :: c :: letters => readLetters specs [] (c :: letters)
  | _ => .operand

/-- What the arguments amount to, in order. -/
def scan (specs : List OptionSpec) : List String → List Item
  | [] => []
  | arg :: rest =>
    match classify specs arg with
    | .items items => items ++ scan specs rest
    | .operand => .operand arg :: scan specs rest
    | .endOfOptions => rest.map .operand
    | .pending items spec =>
      match rest with
      | [] => items ++ [.stop .usage]
      | value :: rest =>
        if looksLikeOption value then items ++ [.stop .usage]
        else items ++ .option spec value :: scan specs rest

/-- What the arguments up to the first operand amount to, and the arguments from there on. Behind
the end of the options nothing is looked for. -/
def scanLeading (specs : List OptionSpec) : List String → List Item × List String
  | [] => ([], [])
  | arg :: rest =>
    match classify specs arg with
    | .items items =>
      let (more, left) := scanLeading specs rest
      (items ++ more, left)
    | .operand => ([], arg :: rest)
    | .endOfOptions => ([.stop .usage], [])
    | .pending items spec =>
      match rest with
      | [] => (items ++ [.stop .usage], [])
      | value :: rest =>
        if looksLikeOption value then (items ++ [.stop .usage], [])
        else
          let (more, left) := scanLeading specs rest
          (items ++ .option spec value :: more, left)

/-- Options that were given, each with its value, and operands. -/
structure Settings where
  options : List (String × String)
  operands : List String
deriving DecidableEq, Repr

namespace Settings

def empty : Settings := ⟨[], []⟩

/-- Whether the option was given. -/
def has (s : Settings) (name : String) : Bool :=
  s.options.any (·.1 = name)

/-- The values that were given for an option, in order. -/
def values (s : Settings) (name : String) : List String :=
  (s.options.filter (·.1 = name)).map (·.2)

/-- Takes an item into account. Each option has to pass a check of its value and may not be
repeated unless it collects values, and each operand has to pass a check together with the
operands before it. -/
def add (validOption : String → String → Bool) (validOperands : List String → Bool)
    (s : Settings) : Item → Except Stop Settings
  | .stop reason => .error reason
  | .operand text =>
    let operands := s.operands ++ [text]
    if validOperands operands then .ok { s with operands } else .error .usage
  | .option spec value =>
    if spec.kind ≠ .values ∧ s.has spec.name then .error .usage
    else if validOption spec.name value then
      .ok { s with options := s.options ++ [(spec.name, value)] }
    else .error .usage

end Settings

end LocaleMessage.CommandLine
