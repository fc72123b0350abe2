import LocaleMessage.Binary64.Reading
import LocaleMessage.Json.Basic
import LocaleMessage.Json.Numeral

/-!
Reading JSON. Surrogates have to come in pairs, numbers must not be too great for a
floating-point number, and arrays and objects may stand in each other up to a limit.
-/

namespace LocaleMessage.Json

/-- Reads from the front of the text that is left. -/
abbrev Reader := StateT (List Char) Option

namespace Reader

def fail {α : Type} : Reader α := fun _ => none

def isBlank (c : Char) : Bool :=
  c = ' ' || c = '\t' || c = '\n' || c = '\r'

def skipBlanks : Reader Unit := fun text =>
  some ((), text.dropWhile isBlank)

def peek : Reader (Option Char) := fun text =>
  some (text.head?, text)

/-- Reads one character. -/
def next : Reader Char
  | c :: rest => some (c, rest)
  | [] => none

/-- Reads a text, which has to be next. -/
def expect (token : String) : Reader Unit := fun text =>
  if token.toList.isPrefixOf text then some ((), text.drop token.length) else none

/-- The number that a hexadecimal digit stands for. -/
def hexValue? (c : Char) : Option Nat :=
  if c.isDigit then some (c.toNat - '0'.toNat)
  else if 'a' ≤ c ∧ c ≤ 'f' then some (c.toNat - 'a'.toNat + 10)
  else if 'A' ≤ c ∧ c ≤ 'F' then some (c.toNat - 'A'.toNat + 10)
  else none

def hexDigit : Reader Nat := do
  match hexValue? (← next) with
  | some n => return n
  | none => fail

/-- Reads the four digits of a code unit. -/
def codeUnit : Reader Nat := do
  let a ← hexDigit
  let b ← hexDigit
  let c ← hexDigit
  let d ← hexDigit
  return ((a * 16 + b) * 16 + c) * 16 + d

/-- Reads the digits of a code unit, and a second unit after the first half of a pair. -/
def codePoint : Reader Char := do
  let unit ← codeUnit
  if 0xDC00 ≤ unit ∧ unit ≤ 0xDFFF then fail
  else if 0xD800 ≤ unit ∧ unit ≤ 0xDBFF then
    expect "\\u"
    let low ← codeUnit
    if 0xDC00 ≤ low ∧ low ≤ 0xDFFF then
      return Char.ofNat (0x10000 + (unit - 0xD800) * 0x400 + (low - 0xDC00))
    else fail
  else return Char.ofNat unit

/-- Reads what follows a backslash. -/
def escape : Reader Char := do
  let c ← next
  if c = '"' ∨ c = '\\' ∨ c = '/' then return c
  else if c = 'b' then return '\x08'
  else if c = 'f' then return '\x0c'
  else if c = 'n' then return '\n'
  else if c = 'r' then return '\r'
  else if c = 't' then return '\t'
  else if c = 'u' then codePoint
  else fail

/-- Reads a string behind its opening quote. Each character uses up one of the bound. -/
def stringRest (bound : Nat) (read : List Char) : Reader String :=
  match bound with
  | 0 => fail
  | bound + 1 => do
    let c ← next
    if c = '"' then return String.ofList read.reverse
    else if c = '\\' then stringRest bound ((← escape) :: read)
    else if c.toNat < 0x20 then fail
    else stringRest bound (c :: read)

/-- Reads a string with its quotes. -/
def string : Reader String := do
  expect "\""
  let text ← get
  stringRest text.length []

/-- Reads at least one digit. -/
def digits : Reader (List Char) := fun text =>
  let run := text.takeWhile Char.isDigit
  if run.isEmpty then none else some (run, text.dropWhile Char.isDigit)

/-- Reads a minus, if there is one. -/
def minus : Reader (List Char) := do
  if (← peek) = some '-' then return [← next] else return []

/-- Reads the digits before the point, of which only a single one may be a zero in front. -/
def integerDigits : Reader (List Char) := do
  let run ← digits
  if run.head? = some '0' ∧ 1 < run.length then fail else return run

/-- Reads a point and digits, if there is a point. -/
def fraction : Reader (List Char) := do
  if (← peek) = some '.' then return (← next) :: (← digits) else return []

/-- Reads a sign, if there is one. -/
def sign : Reader (List Char) := do
  let c ← peek
  if c = some '-' ∨ c = some '+' then return [← next] else return []

/-- Reads an exponent, if there is one. -/
def exponent : Reader (List Char) := do
  let c ← peek
  if c = some 'e' ∨ c = some 'E' then
    let e ← next
    return e :: ((← sign) ++ (← digits))
  else return []

/-- The exponent that a text read by `exponent` gives, zero if that is empty. -/
def exponentValue (power : List Char) : Int :=
  let (negative, digits) := takeSign (power.drop 1)
  if negative then -(digitsValue digits : Int) else digitsValue digits

/-- Reads a number. -/
def number : Reader Json := do
  let sign ← minus
  let whole ← integerDigits
  let part ← fraction
  let power ← exponent
  if isInRange (keptDecimal whole (part.drop 1) (exponentValue power)) then
    return .number (String.ofList (sign ++ whole ++ part ++ power))
  else fail

mutual

/-- Reads a value that may hold others `depth` levels deep. -/
def value (bound depth : Nat) : Reader Json :=
  match bound with
  | 0 => fail
  | bound + 1 => do
    skipBlanks
    match ← peek with
    | some '"' => return .string (← string)
    | some 't' => do expect "true"; return .bool true
    | some 'f' => do expect "false"; return .bool false
    | some 'n' => do expect "null"; return .null
    | some '[' => do
      expect "["
      skipBlanks
      if depth = 0 then fail
      else if (← peek) = some ']' then do expect "]"; return .array []
      else return .array (← items bound (depth - 1))
    | some '\x7b' => do
      expect "\x7b"
      skipBlanks
      if depth = 0 then fail
      else if (← peek) = some '\x7d' then do expect "\x7d"; return .object []
      else return .object (← members bound (depth - 1))
    | _ => number

/-- Reads the items of an array and the bracket behind them. -/
def items (bound depth : Nat) : Reader (List Json) :=
  match bound with
  | 0 => fail
  | bound + 1 => do
    let item ← value bound depth
    skipBlanks
    if (← peek) = some ',' then do
      expect ","
      return item :: (← items bound depth)
    else
      expect "]"
      return [item]

/-- Reads the members of an object and the brace behind them. -/
def members (bound depth : Nat) : Reader (List (String × Json)) :=
  match bound with
  | 0 => fail
  | bound + 1 => do
    skipBlanks
    let name ← string
    skipBlanks
    expect ":"
    let member ← value bound depth
    skipBlanks
    if (← peek) = some ',' then do
      expect ","
      return (name, member) :: (← members bound depth)
    else
      expect "\x7d"
      return [(name, member)]

end

end Reader

/-- How many arrays and objects may stand in each other. -/
def depthLimit : Nat := 127

/-- Reads a text that holds one value. -/
def ofText? (text : String) : Option Json :=
  let chars := text.toList
  match Reader.value (2 * chars.length + 1) depthLimit chars with
  | some (value, rest) => if rest.all Reader.isBlank then some value else none
  | none => none

end LocaleMessage.Json
