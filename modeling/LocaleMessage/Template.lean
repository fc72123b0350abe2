import LocaleMessage.Compiled.Message
import LocaleMessage.Pattern.Parser

/-!
Patterns that are read and compiled in one step.
-/

namespace LocaleMessage

/-- A pattern, the message that it stands for, and the message compiled. -/
structure Template (m : Type → Type) where
  pattern : String
  message : Message
  compiled : CompiledMessage m

variable {m : Type → Type} [Monad m]

namespace Template

/-- Reads a pattern and compiles it. -/
def build (pattern : String) (options : CompileOptions m) :
    Except Pattern.SyntaxError (Template m) := do
  let message ← Pattern.parse pattern
  return ⟨pattern, message, CompiledMessage.ofMessage message options⟩

/-- Writes the message. -/
def format (template : Template m) (bindings : Bindings) : m (Except FormatError String) :=
  template.compiled.format bindings

end Template

/-- Why a pattern gives no text. -/
inductive MessageError where
  | pattern (e : Pattern.SyntaxError)
  | format (e : FormatError)
deriving DecidableEq, Repr

/-- Reads, compiles and writes a pattern with the usual collaborators. Missing arguments are
written as their names in braces. -/
def formatMessage (pattern : String) (bindings : Bindings) (locale : String) :
    Except MessageError String :=
  let options : CompileOptions Id := ⟨locale, false, .standard⟩
  match Template.build pattern options with
  | .error e => .error (.pattern e)
  | .ok template =>
    match Id.run (template.format bindings) with
    | .error e => .error (.format e)
    | .ok text => .ok text

end LocaleMessage
