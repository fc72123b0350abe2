import LocaleMessage.Pattern.Message
import LocaleMessage.Text.EditDistance
import LocaleMessage.Text.Word

/-!
The keywords that say what is done with an argument, and which of them a misspelt word may
have meant.
-/

namespace LocaleMessage.Pattern

/-- A keyword that is followed by branches. -/
inductive Clause where
  | plural
  | selectordinal
  | select
deriving DecidableEq, Repr

def Clause.text : Clause → String
  | plural => "plural"
  | selectordinal => "selectordinal"
  | select => "select"

/-- The element that a finished clause stands for. Only plurals have an offset. -/
def Clause.element (id : String) (offset : UInt32) (options : List (Branch Message)) :
    Clause → Element
  | plural => .plural id false offset options
  | selectordinal => .plural id true offset options
  | select => .select id options

/-- A keyword that may be followed by a style. -/
inductive Format where
  | number
  | date
  | time
  | ordinal
  | duration
  | spellout
deriving DecidableEq, Repr

def Format.text : Format → String
  | number => "number"
  | date => "date"
  | time => "time"
  | ordinal => "ordinal"
  | duration => "duration"
  | spellout => "spellout"

/-- The element that a formatted argument stands for. The keywords `ordinal`, `duration` and
`spellout` are number styles of their own and put aside a style that follows them. -/
def Format.element (id : String) (style : Option String) : Format → Element
  | number => .typed id .number style
  | date => .typed id .date style
  | time => .typed id .time style
  | format => .typed id .number (some format.text)

inductive Keyword where
  | format (f : Format)
  | clause (c : Clause)
deriving DecidableEq, Repr

namespace Keyword

def text : Keyword → String
  | format f => f.text
  | clause c => c.text

/-- All keywords, each before the keywords that begin it. -/
def all : List Keyword :=
  [format .number, format .date, format .time, format .ordinal, format .duration,
    format .spellout, clause .plural, clause .selectordinal, clause .select]

/-- The first keyword that the text begins with. -/
def leading? (text : List Char) : Option Keyword :=
  all.find? fun k => k.text.toList.isPrefixOf text

/-- The keywords at one distance from a word. -/
def atDistance (word : List Char) (distance : Nat) : List Keyword :=
  all.filter fun k => Text.editDistance word k.text.toList = distance

/-- Up to three keywords that the word may have meant, nearest first: at distance one, or two
for words of more than three bytes. -/
def suggestions (word : List Char) : List Keyword :=
  if word.isEmpty then []
  else if (String.ofList word).utf8ByteSize ≤ 3 then (atDistance word 1).take 3
  else (atDistance word 1 ++ atDistance word 2).take 3

end Keyword

end LocaleMessage.Pattern
