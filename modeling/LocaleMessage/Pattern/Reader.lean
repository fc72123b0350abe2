import LocaleMessage.Decimal
import LocaleMessage.Pattern.Lexical
import LocaleMessage.Pattern.SyntaxError

/-!
Readers of the parts of a pattern that hold no messages: names, keywords, styles, offsets and
selectors.
-/

namespace LocaleMessage.Pattern

/-- Reads from the front of the text that is left. -/
abbrev Reader := StateT (List Char) (Except Failure)

namespace Reader

/-- Stops here. -/
def fail {α : Type} (problem : Problem) : Reader α := fun text =>
  .error ⟨problem, text⟩

/-- The next character, which stays unread. -/
def peek : Reader (Option Char) := fun text =>
  .ok (text.head?, text)

/-- Reads over blanks. -/
def skipBlanks : Reader Unit := fun text =>
  .ok ((), text.dropWhile isBlank)

/-- Reads `c` if it is next, and tells whether it was. -/
def accept (c : Char) : Reader Bool := fun text =>
  match text with
  | d :: rest => if d = c then .ok (true, rest) else .ok (false, text)
  | [] => .ok (false, text)

/-- Reads `c`, which has to be next. -/
def expect (c : Char) : Reader Unit := fun text =>
  match text with
  | d :: rest => if d = c then .ok ((), rest) else .error ⟨.expected (.token c), text⟩
  | [] => .error ⟨.expected (.token c), text⟩

/-- Reads the longest run of characters in the class. -/
def charsWhile (p : Char → Bool) : Reader (List Char) := fun text =>
  .ok (text.takeWhile p, text.dropWhile p)

/-- Reads text up to a character that is special in the scope. -/
def text (scope : Scope) : Reader (List Char) := fun text =>
  .ok (readText scope text)

/-- Whether the character can stand in the name of an argument. -/
def isIdChar (c : Char) : Bool :=
  !(c = '\x7b' || c = '\x7d' || c = ',' || c = '#' || isBlank c)

/-- Reads the name of an argument. -/
def argumentId : Reader String := do
  skipBlanks
  let id ← charsWhile isIdChar
  let next ← peek
  if id.isEmpty || next = some '\x7b' || next = some '#' then
    fail (.expected .argumentId)
  else
    skipBlanks
    return String.ofList id

/-- Reads a keyword. What follows it may be part of the same word. -/
def keyword : Reader Keyword := do
  skipBlanks
  let k ← fun text =>
    match Keyword.leading? text with
    | some k => .ok (k, text.drop k.text.length)
    | none => .error ⟨.expected .keyword, text⟩
  skipBlanks
  return k

/-- Reads the style of an argument. -/
def styleName : Reader String := do
  skipBlanks
  let style ← text .style
  if style.isEmpty then
    fail (.expected .styleName)
  else
    skipBlanks
    return String.ofList style

/-- Reads digits that stand for an offset. Where they do not, none is read. -/
def offsetNumber : Reader UInt32 := fun text =>
  let digits := text.takeWhile Char.isDigit
  if digits.isEmpty || UInt32.size ≤ digitsValue digits then
    .error ⟨.expected .offsetNumber, text⟩
  else .ok (UInt32.ofNat (digitsValue digits), text.dropWhile Char.isDigit)

/-- Reads the offset of a plural, which is zero where none is given. -/
def pluralOffset : Reader UInt32 := do
  skipBlanks
  let given ← fun text =>
    if "offset:".toList.isPrefixOf text then .ok (true, text.drop "offset:".length)
    else .ok (false, text)
  if given then
    skipBlanks
    let offset ← offsetNumber
    skipBlanks
    return offset
  else
    return 0

/-- Reads what follows the keyword of a formatted argument, with the brace that closes it. -/
def formatted (id : String) (format : Format) : Reader Element := do
  if ← accept '\x7d' then
    return format.element id none
  expect ','
  let style ← styleName
  expect '\x7d'
  return format.element id (some style)

/-- Whether the character can stand in a selector. -/
def isSelectorChar (c : Char) : Bool :=
  !(c = '\x7b' || c = '\x7d' || c = ',' || isBlank c)

/-- Reads the selector of a branch. -/
def selector : Reader String := do
  let name ← charsWhile isSelectorChar
  let next ← peek
  if next = some '\x7d' || next = some ',' then
    fail (.expected (.token '\x7b'))
  else if name.isEmpty then
    fail (.expected .selector)
  else
    skipBlanks
    return String.ofList name

end Reader

end LocaleMessage.Pattern
