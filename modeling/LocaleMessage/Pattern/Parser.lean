import LocaleMessage.Pattern.Reader

/-!
The reader of whole patterns.

Messages hold clauses and clauses hold messages, so their readers call each other. Each carries
a bound on how deep the calls may go. Every call but the one from a message to its next argument
has read at least one character since, so one more than the number of characters is never used
up.
-/

namespace LocaleMessage.Pattern

open Reader

/-- Text as an element, unless there is none. -/
def literal (text : List Char) : Message :=
  if text.isEmpty then [] else [.literal (String.ofList text)]

/-- Finishes a clause whose branches have been read. -/
def closeClause (id : String) (offset : UInt32) (options : List (Branch Message))
    (clause : Clause) : Reader Element := do
  if options.isEmpty then
    fail (.expected (.branches clause))
  else if options.all (·.selector ≠ "other") then
    fail (.missingOther clause)
  else
    expect '\x7d'
    return clause.element id offset options

/-- Reads what follows the keyword of a clause, with the brace that closes it. Its branches are
left to a reader that is told their scope. -/
def readClause (branches : Scope → Reader (List (Branch Message))) (scope : Scope) (id : String)
    (clause : Clause) : Reader Element := do
  let next ← peek
  if next = some '\x7d' then
    fail (.expected (.branches clause))
  else
    expect ','
    let offset ← if clause = .select then pure 0 else pluralOffset
    let options ← branches (if clause = .select then scope.ofSelect else .plural)
    closeClause id offset options clause

mutual

/-- Reads a message up to the brace that closes it or the end of the pattern. -/
def readMessage (bound : Nat) (scope : Scope) : Reader Message :=
  match bound with
  | 0 => fail .unexpected
  | bound + 1 => do
    let text ← Reader.text scope
    let next ← peek
    if next = none then
      return literal text
    else if next = some '\x7d' then
      if scope = .root then fail .unexpected else return literal text
    else
      let element ← readArgument bound scope
      let rest ← readMessage bound scope
      return literal text ++ element :: rest

/-- Reads an argument with its braces, or a number sign. -/
def readArgument (bound : Nat) (scope : Scope) : Reader Element :=
  match bound with
  | 0 => fail .unexpected
  | bound + 1 => do
    if ← accept '#' then
      return .pound
    let _ ← accept '\x7b'
    let id ← argumentId
    if ← accept '\x7d' then
      return .argument id
    expect ','
    match ← keyword with
    | .format format => formatted id format
    | .clause clause => readClause (fun scope => readBranches bound scope []) scope id clause

/-- Reads branches up to the brace that closes the clause or the end of the pattern. A selector
that was read before keeps its place and takes the new message. -/
def readBranches (bound : Nat) (scope : Scope) (read : List (Branch Message)) :
    Reader (List (Branch Message)) :=
  match bound with
  | 0 => fail .unexpected
  | bound + 1 => do
    skipBlanks
    let next ← peek
    if next = none || next = some '\x7d' then
      return read
    else
      let name ← selector
      expect '\x7b'
      let message ← readMessage bound scope
      expect '\x7d'
      readBranches bound scope (Branch.put ⟨name, message⟩ read)

end

/-- Reads a whole pattern from its characters. -/
def parseChars (pattern : List Char) : Except SyntaxError Message :=
  match (readMessage (pattern.length + 1) .root).run pattern with
  | .ok (message, _) => .ok message
  | .error failure => .error (failure.locate pattern)

/-- The message that a pattern stands for. -/
def parse (pattern : String) : Except SyntaxError Message :=
  parseChars pattern.toList

end LocaleMessage.Pattern
