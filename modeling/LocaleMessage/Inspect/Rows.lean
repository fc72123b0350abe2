import LocaleMessage.Pattern.Message
import LocaleMessage.Decimal
import LocaleMessage.Text.Quoted

/-!
Messages as lists of rows, one for each element at any depth.
-/

namespace LocaleMessage.Inspect

/-- An element: the branch that it stands on, what it is, the argument that it names, and what
else is to be said of it. -/
structure Row where
  path : String
  kind : String
  id : String
  detail : String
deriving DecidableEq, Repr

/-- The path of a branch from the path of its clause. -/
def branchPath (path id selector : String) : String :=
  if path.isEmpty then id ++ "/" ++ selector else path ++ "/" ++ id ++ "/" ++ selector

def natText (n : Nat) : String :=
  String.ofList (decimalDigits n)

/-- How many options a clause has, behind its offset where it has one. -/
def optionsText (offset : UInt32) (options : Nat) : String :=
  (if offset = 0 then "" else "offset " ++ natText offset.toNat ++ ", ") ++
    natText options ++ " options"

/-- The row of an element by itself. -/
def elementRow (path : String) : Element → Row
  | .literal text => ⟨path, "literal", "", Text.quoted text⟩
  | .argument id => ⟨path, "argument", id, ""⟩
  | .typed id kind style => ⟨path, kind.text, id, style.getD ""⟩
  | .plural id ordinal offset options =>
    ⟨path, if ordinal then "selectordinal" else "plural", id, optionsText offset options.length⟩
  | .select id options => ⟨path, "select", id, optionsText 0 options.length⟩
  | .pound => ⟨path, "pound", "", ""⟩

mutual

/-- The row of an element and the rows below it. -/
def elementRows (path : String) : Element → List Row
  | .plural id ordinal offset options =>
    elementRow path (.plural id ordinal offset options) :: optionRows path id options
  | .select id options => elementRow path (.select id options) :: optionRows path id options
  | element => [elementRow path element]

/-- The rows of elements in order. -/
def messageRows (path : String) : List Element → List Row
  | [] => []
  | element :: rest => elementRows path element ++ messageRows path rest

/-- The rows of the branches of a clause in order. -/
def optionRows (path id : String) : List (Branch (List Element)) → List Row
  | [] => []
  | ⟨selector, message⟩ :: rest =>
    messageRows (branchPath path id selector) message ++ optionRows path id rest

end

/-- The rows of a message. -/
def rows (message : Message) : List Row :=
  messageRows "" message

end LocaleMessage.Inspect
