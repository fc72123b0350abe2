import LocaleMessage.CommandLine.Options

/-!
The commands of the program and how they are called.
-/

namespace LocaleMessage.CommandLine

/-- What is to be done. -/
inductive Command where
  /-- Checks the patterns of catalogs. -/
  | check (files : List String) (json : Bool)
  /-- Shows what a pattern is made of. -/
  | inspect (pattern : String) (json : Bool)
  /-- Writes a message with values for its arguments. -/
  | format (pattern : String) (locale : Option String) (parameters : List (String × String))
      (strict json : Bool)
deriving DecidableEq, Repr

structure Invocation where
  command : Command
  verbose : Bool
deriving DecidableEq, Repr

/-- Options that may stand on either side of the name of the command. -/
def commonOptions : List OptionSpec :=
  [⟨"color", none, .value⟩, ⟨"verbose", some 'v', .flag⟩, ⟨"help", some 'h', .stop .help⟩]

/-- Options before the name of the command. -/
def leadingOptions : List OptionSpec :=
  commonOptions ++ [⟨"version", some 'V', .stop .version⟩]

def jsonOption : OptionSpec := ⟨"json", none, .flag⟩

/-- Options of the command that writes messages. -/
def formatOptions : List OptionSpec :=
  commonOptions ++
    [jsonOption, ⟨"locale", none, .value⟩, ⟨"param", some 'p', .values⟩, ⟨"strict", none, .flag⟩]

/-- A parameter as a name and a value, split at the first equals sign. -/
def splitParameter? (text : String) : Option (String × String) :=
  match text.toList.dropWhile (· ≠ '=') with
  | [] => none
  | _ :: value => some (String.ofList (text.toList.takeWhile (· ≠ '=')), String.ofList value)

/-- Whether an option may have a value. -/
def validOption (name value : String) : Bool :=
  if name = "color" then ["auto", "always", "never"].contains value
  else if name = "param" then (splitParameter? value).isSome
  else true

/-- Whether there is at most one operand. -/
def atMostOne (operands : List String) : Bool :=
  operands.length ≤ 1

/-- Whether all operands can be names of files. -/
def fileNames (operands : List String) : Bool :=
  operands.all (!·.isEmpty)

/-- Reads the arguments behind the name of a command. -/
def readSettings (specs : List OptionSpec) (validOperands : List String → Bool)
    (args : List String) : Except Stop Settings :=
  (scan specs args).foldlM (Settings.add validOption validOperands) .empty

/-- The commands that can be asked about. -/
def topics : List String :=
  ["check", "inspect", "format", "help"]

/-- Reads the arguments of a command. -/
def readCommand (name : String) (args : List String) : Except Stop Invocation :=
  if name = "check" then do
    let s ← readSettings (jsonOption :: commonOptions) fileNames args
    if s.operands.isEmpty then throw .usage
    else return ⟨.check s.operands (s.has "json"), s.has "verbose"⟩
  else if name = "inspect" then do
    let s ← readSettings (jsonOption :: commonOptions) atMostOne args
    match s.operands with
    | pattern :: _ => return ⟨.inspect pattern (s.has "json"), s.has "verbose"⟩
    | [] => throw .usage
  else if name = "format" then do
    let s ← readSettings formatOptions atMostOne args
    match s.operands with
    | pattern :: _ =>
      return ⟨.format pattern (s.values "locale").head?
        ((s.values "param").filterMap splitParameter?) (s.has "strict") (s.has "json"),
        s.has "verbose"⟩
    | [] => throw .usage
  else if name = "help" then
    match args with
    | [] => throw .help
    | [topic] => throw (if topics.contains topic then .help else .usage)
    | _ => throw .usage
  else throw .usage

/-- Reads all arguments. -/
def readArguments (args : List String) : Except Stop Invocation := do
  let (items, rest) := scanLeading leadingOptions args
  let leading ← items.foldlM (Settings.add validOption fileNames) .empty
  match rest with
  | [] => throw .usage
  | name :: args =>
    let invocation ← readCommand name args
    return { invocation with verbose := invocation.verbose || leading.has "verbose" }

end LocaleMessage.CommandLine
