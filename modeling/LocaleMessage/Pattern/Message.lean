/-!
Messages as trees: literal text, arguments, and clauses that choose among branches.
-/

namespace LocaleMessage

/-- One branch of a clause: what has to be selected, and what is then written. -/
structure Branch (α : Type) where
  selector : String
  content : α
deriving DecidableEq, Repr

/-- The content of the first branch with this selector. -/
def Branch.find? {α : Type} (branches : List (Branch α)) (selector : String) : Option α :=
  (branches.find? (·.selector = selector)).map (·.content)

/-- Adds a branch at the end. A selector that is already there keeps its place and takes the
new content. -/
def Branch.put {α : Type} (branch : Branch α) : List (Branch α) → List (Branch α)
  | [] => [branch]
  | b :: bs => if b.selector = branch.selector then branch :: bs else b :: put branch bs

/-- What a formatted argument is formatted as. -/
inductive ArgumentKind where
  | number
  | date
  | time
deriving DecidableEq, Repr

def ArgumentKind.text : ArgumentKind → String
  | number => "number"
  | date => "date"
  | time => "time"

/-- An element of a message. Text is kept without its quoting. -/
inductive Element where
  | literal (text : String)
  /-- An argument written as it is. -/
  | argument (id : String)
  /-- An argument written in a style. -/
  | typed (id : String) (kind : ArgumentKind) (style : Option String)
  /-- A choice by the plural category of a number, or of a position when `ordinal` is set. -/
  | plural (id : String) (ordinal : Bool) (offset : UInt32)
      (options : List (Branch (List Element)))
  /-- A choice by the text of a value. -/
  | select (id : String) (options : List (Branch (List Element)))
  /-- The number of the enclosing plural. -/
  | pound
deriving Repr

/-- A message is written by writing its elements in order. -/
abbrev Message := List Element

/-- The branches of a clause; other elements have none. -/
def Element.options : Element → List (Branch Message)
  | plural _ _ _ options | select _ options => options
  | _ => []

/-- The message of a clause that stands under the selector. -/
def Element.option? (element : Element) (selector : String) : Option Message :=
  Branch.find? element.options selector

/-- Adds `x` at the end unless it is there. -/
def insertLast (x : String) (xs : List String) : List String :=
  if x ∈ xs then xs else xs ++ [x]

mutual

/-- Adds to `ids` the arguments that the element names, a clause before its branches. -/
def Element.addIds (ids : List String) : Element → List String
  | .literal _ | .pound => ids
  | .argument id | .typed id _ _ => insertLast id ids
  | .plural id _ _ options | .select id options => addOptionIds (insertLast id ids) options

/-- Adds to `ids` the arguments that the elements name, in order. -/
def addMessageIds (ids : List String) : List Element → List String
  | [] => ids
  | element :: rest => addMessageIds (element.addIds ids) rest

/-- Adds to `ids` the arguments that the branches name, in order. -/
def addOptionIds (ids : List String) : List (Branch (List Element)) → List String
  | [] => ids
  | ⟨_, message⟩ :: rest => addOptionIds (addMessageIds ids message) rest

end

/-- The arguments that a message names, each once, in the order of first use. -/
def Message.argumentIds (message : Message) : List String :=
  addMessageIds [] message

end LocaleMessage
