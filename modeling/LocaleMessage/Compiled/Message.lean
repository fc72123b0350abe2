import LocaleMessage.Compiled.Compile
import LocaleMessage.Compiled.Evaluate

/-!
Messages compiled for a locale.
-/

namespace LocaleMessage

/-- Why a message cannot be written. -/
inductive FormatError where
  | missing (ids : List String)
deriving DecidableEq, Repr

def FormatError.message : FormatError → String
  | missing ids => "missing parameters: " ++ ", ".intercalate ids

/-- What a message is compiled with. A strict message refuses to be written when an argument
that it reads is missing. -/
structure CompileOptions (m : Type → Type) where
  locale : String
  strict : Bool
  formatters : Formatters m

structure CompiledMessage (m : Type → Type) where
  locale : String
  strict : Bool
  formatters : Formatters m
  root : Operation

variable {m : Type → Type} [Monad m]

/-- Compiles a message. -/
def CompiledMessage.ofMessage (message : Message) (options : CompileOptions m) :
    CompiledMessage m where
  locale := options.locale
  strict := options.strict
  formatters := options.formatters
  root := Operation.ofMessage message

namespace CompiledMessage

/-- Writes a message. Only arguments on the branches that were chosen can be missing. -/
def format (message : CompiledMessage m) (bindings : Bindings) :
    m (Except FormatError String) := do
  let (text, missing) ←
    (message.root.evaluate ⟨bindings, message.locale, message.formatters⟩).run []
  if message.strict && !missing.isEmpty then
    return .error (.missing missing)
  else
    return .ok text

end CompiledMessage

end LocaleMessage
