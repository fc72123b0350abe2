/-!
The characters of patterns: which of them are special where, and how apostrophes quote them.
-/

namespace LocaleMessage.Pattern

/-- Where text stands. -/
inductive Scope where
  /-- The pattern itself. -/
  | root
  /-- A branch somewhere below a plural. -/
  | plural
  /-- A branch of a select that is not below a plural. -/
  | select
  /-- The style of an argument. -/
  | style
deriving DecidableEq, Repr

/-- The characters that may surround names and keywords. -/
def isBlank (c : Char) : Bool :=
  c = ' ' || c = '\t' || c = '\n' || c = '\r' || c = '\x0c' || c = '\x0b' ||
    c = '\u00a0' || c = '\u2028' || c = '\u2029'

/-- Whether the character ends text: a brace anywhere, a number sign below a plural, a blank in
a style. -/
def Scope.isSpecial (scope : Scope) (c : Char) : Bool :=
  c = '\x7b' || c = '\x7d' || (c = '#' && scope = .plural) || (isBlank c && scope = .style)

/-- The scope of the branches of a select that stands in `scope`. -/
def Scope.ofSelect : Scope → Scope
  | plural => plural
  | _ => select

/-- Puts a character in front of the text that was read. -/
def push (c : Char) (read : List Char × List Char) : List Char × List Char :=
  (c :: read.1, read.2)

mutual

/-- Reads text up to the next special character, and gives what it stands for and what follows.
Two apostrophes stand for one, an apostrophe before a special character opens a quoted run, and
any other apostrophe stands for itself. -/
def readText (scope : Scope) : List Char → List Char × List Char
  | [] => ([], [])
  | '\'' :: '\'' :: rest => push '\'' (readText scope rest)
  | '\'' :: c :: rest =>
    if scope.isSpecial c then push c (readQuoted scope rest)
    else push '\'' (push c (readText scope rest))
  | c :: rest => if scope.isSpecial c then ([], c :: rest) else push c (readText scope rest)

/-- Reads on inside a quoted run, where only an apostrophe that is not doubled ends the run, and
goes on with the text behind it. A run that is not closed ends with the pattern. -/
def readQuoted (scope : Scope) : List Char → List Char × List Char
  | [] => ([], [])
  | '\'' :: '\'' :: rest => push '\'' (readQuoted scope rest)
  | '\'' :: rest => readText scope rest
  | c :: rest => push c (readQuoted scope rest)

end

end LocaleMessage.Pattern
