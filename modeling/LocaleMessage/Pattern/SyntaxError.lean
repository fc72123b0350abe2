import LocaleMessage.Pattern.Keyword
import LocaleMessage.Text.Position

/-!
What can be wrong with a pattern, where, and how it is told.
-/

namespace LocaleMessage.Pattern

/-- What a reader waits for. -/
inductive Expectation where
  | token (c : Char)
  | argumentId
  | keyword
  | styleName
  | offsetNumber
  | selector
  | branches (clause : Clause)
  | encodedText
deriving DecidableEq, Repr

def Expectation.text : Expectation → String
  | token c => c.toString
  | argumentId => "argument id"
  | keyword => ", ".intercalate (Keyword.all.map (·.text))
  | styleName => "argument style name"
  | offsetNumber => "offset number"
  | selector => "selector"
  | branches clause => clause.text ++ " message options"
  | encodedText => "UTF-8 pattern"

/-- Why reading stops. -/
inductive Problem where
  | expected (what : Expectation)
  | unexpected
  /-- A clause that is otherwise finished has no branch for all other cases. -/
  | missingOther (clause : Clause)
deriving DecidableEq, Repr

/-- What a reader meets where it stops. -/
inductive Found where
  | character (c : Char)
  | endOfInput
  | invalidEncoding
deriving DecidableEq, Repr

def Found.text : Found → String
  | character c => c.toString
  | endOfInput => "end of input"
  | invalidEncoding => "invalid UTF-8"

/-- What stands first in the text that is left. -/
def Found.first : List Char → Found
  | [] => endOfInput
  | c :: _ => character c

/-- Writes every line end of two characters as one line feed. -/
def unifyLineEnds : List Char → List Char
  | '\r' :: '\n' :: rest => '\n' :: unifyLineEnds rest
  | c :: rest => c :: unifyLineEnds rest
  | [] => []

/-- A problem at a place of a pattern. -/
structure SyntaxError where
  problem : Problem
  found : Found
  position : Text.Position
  /-- Keywords that may have been meant. -/
  suggestions : List Keyword
  pattern : String
deriving DecidableEq, Repr

namespace SyntaxError

/-- What was waited for, if it has a name. -/
def expected (e : SyntaxError) : Option Expectation :=
  match e.problem with
  | .expected what => some what
  | _ => none

def description (e : SyntaxError) : String :=
  match e.problem with
  | .expected what => "expected \"" ++ what.text ++ "\" but found \"" ++ e.found.text ++ "\""
  | .unexpected => "unexpected \"" ++ e.found.text ++ "\" found"
  | .missingOther clause => "\"other\" option must be specified in " ++ clause.text

/-- The description together with the pattern. -/
def message (e : SyntaxError) : String :=
  e.description ++ " in \"" ++ String.ofList (unifyLineEnds e.pattern.toList) ++ "\""

end SyntaxError

/-- A problem and the text that was left where it arose. -/
structure Failure where
  problem : Problem
  rest : List Char
deriving DecidableEq, Repr

/-- Only a word in the place of a keyword has suggestions. -/
def Failure.suggestions (failure : Failure) : List Keyword :=
  if failure.problem = .expected .keyword then
    Keyword.suggestions (Text.leadingWord failure.rest)
  else []

/-- Tells a failure by its place in the pattern of which `rest` is left. -/
def Failure.locate (failure : Failure) (pattern : List Char) : SyntaxError where
  problem := failure.problem
  found := Found.first failure.rest
  position := Text.Position.after (pattern.take (pattern.length - failure.rest.length))
  suggestions := failure.suggestions
  pattern := String.ofList pattern

end LocaleMessage.Pattern
