import LocaleMessage.Pattern.SyntaxError

/-!
Syntax errors as they are shown beside a source text.
-/

namespace LocaleMessage.Pattern

/-- A stretch of the source text, in bytes, and what is said of it. -/
structure Label where
  text : String
  offset : Nat
  length : Nat
deriving DecidableEq, Repr

structure Diagnostic where
  title : String
  code : String
  help : Option String
  label : Label
deriving DecidableEq, Repr

/-- The character that begins at an offset, none at the end of the text. An offset inside a
character or beyond the end has no answer. -/
def charAt? : List Char → Nat → Option (Option Char)
  | text, 0 => some text.head?
  | [], _ + 1 => none
  | c :: rest, offset + 1 =>
    if c.utf8Size ≤ offset + 1 then charAt? rest (offset + 1 - c.utf8Size) else none

/-- Asks whether one of the keywords was meant. -/
def help? : List Keyword → Option String
  | [] => none
  | [k] => some ("did you mean '" ++ k.text ++ "'?")
  | ks => some ("did you mean one of: " ++ ", ".intercalate (ks.map (·.text)) ++ "?")

/-- Shows an error in a source text, which may be another one than the pattern. Errors beyond its
end are shown at its end, and errors inside one of its characters cannot be shown. -/
def SyntaxError.diagnostic? (e : SyntaxError) (source : String) : Option Diagnostic := do
  let offset := min e.position.offset source.utf8ByteSize
  let c ← charAt? source.toList offset
  return {
    title := "syntax error: " ++ e.description
    code := "msgformat::syntax"
    help := help? e.suggestions
    label := {
      text := match e.expected with
        | some what => "expected " ++ what.text
        | none => "unexpected here"
      offset
      length := (c.map Char.utf8Size).getD 0 } }

end LocaleMessage.Pattern
