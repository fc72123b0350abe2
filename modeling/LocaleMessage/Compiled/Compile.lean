import LocaleMessage.Compiled.Operation

/-!
From messages to operations. Nothing can go wrong: a clause without a branch for the other cases
gets an empty one, and a number sign outside all plurals stands for itself.
-/

namespace LocaleMessage

namespace Operation

/-- Operations in order. A single one stands alone, and none at all are an empty text. -/
def ofParts : List Operation → Operation
  | [] => literal ""
  | [operation] => operation
  | parts => sequence parts

/-- The branches of a clause without the one for the other cases. -/
def withoutOther (branches : List (Branch Operation)) : List (Branch Operation) :=
  (branches.filter (·.selector ≠ "other")).foldl (fun kept branch => branch.put kept) []

/-- The last branch for the other cases, or an empty text. -/
def lastOther (branches : List (Branch Operation)) : Operation :=
  (Branch.find? branches.reverse "other").getD (literal "")

/-- The number of the nearest plural: its argument and its offset. -/
abbrev PoundTarget := Option (String × UInt32)

mutual

def ofElement (pound : PoundTarget) : Element → Operation
  | .literal text => literal text
  | .argument id => simple id
  | .typed id .number style => number id 0 (NumberStyle.ofText style)
  | .typed id .date style => dateTime id .date (DateStyle.ofText style)
  | .typed id .time style => dateTime id .time (DateStyle.ofText style)
  | .plural id isOrdinal offset options =>
    let branches := ofOptions (some (id, offset)) options
    plural id (if isOrdinal then .ordinal else .cardinal) offset (withoutOther branches)
      (lastOther branches)
  | .select id options =>
    let branches := ofOptions pound options
    select id (withoutOther branches) (lastOther branches)
  | .pound =>
    match pound with
    | some (id, offset) => number id offset .default
    | none => literal "#"

def ofElements (pound : PoundTarget) : List Element → List Operation
  | [] => []
  | element :: rest => ofElement pound element :: ofElements pound rest

/-- Compiles every branch of a clause by itself. -/
def ofOptions (pound : PoundTarget) : List (Branch (List Element)) → List (Branch Operation)
  | [] => []
  | ⟨selector, message⟩ :: rest =>
    ⟨selector, ofParts (ofElements pound message)⟩ :: ofOptions pound rest

end

/-- The operation that writes a message. -/
def ofMessage (message : Message) : Operation :=
  ofParts (ofElements none message)

end Operation

end LocaleMessage
