import LocaleMessage.CommandLine.Check
import LocaleMessage.CommandLine.Invocation
import LocaleMessage.CommandLine.Parameter
import LocaleMessage.Inspect.Table
import LocaleMessage.Inspect.Tree
import LocaleMessage.Template

/-!
The commands as functions from arguments and files to what they leave behind.
-/

namespace LocaleMessage.CommandLine

/-- What a run can see of the world. -/
structure World where
  /-- The content of a file. -/
  read : String → Option String
  /-- The locale that is set in the environment. -/
  locale : Option String

/-- Shows a message as a table or as JSON. -/
def inspect (pattern : String) (json : Bool) : Outcome :=
  match Pattern.parse pattern with
  | .error _ => ⟨Outcome.failure, "", ""⟩
  | .ok message =>
    if json then ⟨Outcome.success, lines [(Inspect.tree message).text], ""⟩
    else
      let ids := Message.argumentIds message
      let arguments := if ids.isEmpty then [] else ["", "Arguments: " ++ ", ".intercalate ids]
      ⟨Outcome.success, lines (Inspect.table message :: arguments), ""⟩

/-- Writes a message. -/
def format (pattern locale : String) (parameters : List (String × String))
    (strict json verbose : Bool) : Outcome :=
  let options : CompileOptions Id := ⟨locale, strict, .standard⟩
  match Template.build pattern options with
  | .error _ => ⟨Outcome.failure, "", ""⟩
  | .ok template =>
    let bindings := Bindings.ofList (parameters.map fun (name, text) => (name, .ofParameter text))
    let told := if verbose then
        ["locale " ++ locale ++ ", arguments: " ++
          ", ".intercalate (Message.argumentIds template.message)]
      else []
    match Id.run (template.format bindings) with
    | .ok text =>
      let result := if json then
          (Json.object [("result", .string text), ("locale", .string locale)]).text
        else text
      ⟨Outcome.success, lines [result], lines told⟩
    | .error e =>
      let result := if json then (Json.object [("error", .string e.message)]).text
        else "Format error: " ++ e.message
      ⟨Outcome.dataError, "", lines (told ++ [result])⟩

/-- Does what is to be done. The locale on the command line counts before the one in the
environment. -/
def execute (world : World) (invocation : Invocation) : Outcome :=
  match invocation.command with
  | .check files json => check world.read files json invocation.verbose
  | .inspect pattern json => inspect pattern json
  | .format pattern locale parameters strict json =>
    format pattern ((locale.or world.locale).getD "en") parameters strict json invocation.verbose

/-- Runs the program. -/
def run (world : World) (args : List String) : Outcome :=
  match readArguments args with
  | .ok invocation => execute world invocation
  | .error .usage => ⟨Outcome.usageError, "", ""⟩
  | .error .help => ⟨Outcome.success, "", ""⟩
  | .error .version => ⟨Outcome.success, lines ["msgformat 0.1.0"], ""⟩

end LocaleMessage.CommandLine
