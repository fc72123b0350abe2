import LocaleMessage.Json.Basic

/-!
JSON with a line for each item and member, indented by two spaces.
-/

namespace LocaleMessage.Json

/-- A character inside a string. Quotes, backslashes and controls are escaped, in a short form
where there is one. -/
def escaped (c : Char) : List Char :=
  if c = '"' then ['\\', '"']
  else if c = '\\' then ['\\', '\\']
  else if c = '\n' then ['\\', 'n']
  else if c = '\r' then ['\\', 'r']
  else if c = '\t' then ['\\', 't']
  else if c = '\x08' then ['\\', 'b']
  else if c = '\x0c' then ['\\', 'f']
  else if c.toNat < 0x20 then
    '\\' :: 'u' :: '0' :: '0' :: [Nat.digitChar (c.toNat / 16), Nat.digitChar (c.toNat % 16)]
  else [c]

/-- A string in quotes. -/
def quoted (text : String) : List Char :=
  '"' :: (text.toList.flatMap escaped ++ ['"'])

/-- A new line, indented. -/
def newLine (depth : Nat) : List Char :=
  '\n' :: List.replicate (2 * depth) ' '

mutual

/-- A value whose lines are indented by `depth` steps. -/
def print (depth : Nat) : Json → List Char
  | null => "null".toList
  | bool true => "true".toList
  | bool false => "false".toList
  | number text => text.toList
  | string text => quoted text
  | array [] => ['[', ']']
  | array (item :: rest) =>
    '[' :: (newLine (depth + 1) ++ print (depth + 1) item ++
      (printItems (depth + 1) rest ++ (newLine depth ++ [']'])))
  | object [] => ['\x7b', '\x7d']
  | object ((name, value) :: rest) =>
    '\x7b' :: (newLine (depth + 1) ++ quoted name ++ ':' :: ' ' :: print (depth + 1) value ++
      (printMembers (depth + 1) rest ++ (newLine depth ++ ['\x7d'])))

/-- Further items of an array. -/
def printItems (depth : Nat) : List Json → List Char
  | [] => []
  | item :: rest => ',' :: (newLine depth ++ print depth item ++ printItems depth rest)

/-- Further members of an object. -/
def printMembers (depth : Nat) : List (String × Json) → List Char
  | [] => []
  | (name, value) :: rest =>
    ',' :: (newLine depth ++ quoted name ++ ':' :: ' ' :: print depth value ++
      printMembers depth rest)

end

/-- The text of a value. -/
def text (value : Json) : String :=
  String.ofList (print 0 value)

end LocaleMessage.Json
