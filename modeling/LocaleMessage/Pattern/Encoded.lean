import LocaleMessage.Pattern.Parser
import LocaleMessage.Text.Utf8

/-!
Patterns given as bytes.
-/

namespace LocaleMessage.Pattern

/-- Reads a pattern from bytes in UTF-8. Bytes that are no text are a problem at the end of the
longest prefix that is. -/
def parseBytes (bytes : List UInt8) : Except SyntaxError Message :=
  match Text.Utf8.decode bytes with
  | (pattern, []) => parseChars pattern
  | (valid, _ :: _) => .error {
      problem := .expected .encodedText
      found := .invalidEncoding
      position := Text.Position.after valid
      suggestions := []
      pattern := String.ofList valid }

end LocaleMessage.Pattern
