import LocaleMessage.Proofs.Compiled.Arguments

/-! The form that all compiled messages have. Every operation in one is itself the operation for
some message, where a number sign stands for the number of the nearest plural around; so what holds
of the operations for single messages holds at every depth. -/
namespace LocaleMessage.Operation

/-- The options of a clause; other operations have none. The branch for the other cases is kept
apart and is not among them. -/
def options : Operation → List (Branch Operation)
  | plural _ _ _ options _ | select _ options _ => options
  | _ => []

/-- The operations right below an operation. The branch for the other cases is one of them. -/
def children : Operation → List Operation
  | sequence parts => parts
  | plural _ _ _ options other | select _ options other => options.map Branch.content ++ [other]
  | _ => []

/-- An operation that stands in a tree, with the operations around it from the inside out. The tree
itself has none around it. -/
inductive Occurs (tree : Operation) : List Operation → Operation → Prop where
  | root : Occurs tree [] tree
  | child {around : List Operation} {parent child : Operation} (hParent : Occurs tree around parent)
      (hChild : child ∈ parent.children) : Occurs tree (parent :: around) child

/-- The number of the first plural in a list of operations: its argument and its offset. Selects are
passed over. -/
def nearestPlural? : List Operation → PoundTarget
  | [] => none
  | plural id _ offset _ _ :: _ => some (id, offset)
  | _ :: others => nearestPlural? others

/-- What makes an operation normal, where these operations are around it from the inside out. -/
structure IsNormal (around : List Operation) (operation : Operation) : Prop where
  /-- A sequence has more parts than one, and no part is a sequence again. -/
  parts : ∀ parts, operation = sequence parts →
    2 ≤ parts.length ∧ ∀ part ∈ parts, ∀ inner, part ≠ sequence inner
  distinct : (operation.options.map Branch.selector).Nodup
  /-- The branch for the other cases is no option. -/
  other_not_mem : "other" ∉ operation.options.map Branch.selector
  /-- Only number signs have an offset. -/
  offset : ∀ id offset style, operation = number id offset style → offset ≠ 0 →
    style = .default ∧ nearestPlural? around = some (id, offset)

/-- What the operation for an element can be, where number signs stand for this number. Text,
arguments, number signs and clauses have a case each. -/
inductive IsForElement (pound : PoundTarget) : Operation → Prop where
  | literal (text : String) : IsForElement pound (.literal text)
  | simple (id : String) : IsForElement pound (.simple id)
  | number (id : String) (style : NumberStyle) : IsForElement pound (.number id 0 style)
  | dateTime (id : String) (part : DatePart) (style : DateStyle) :
      IsForElement pound (.dateTime id part style)
  | pound {id : String} {offset : UInt32} (hPound : pound = some (id, offset)) :
      IsForElement pound (.number id offset .default)
  | plural (id : String) (type : PluralType) (offset : UInt32) (options : List (Branch Message)) :
      IsForElement pound (.plural id type offset
        (withoutOther (ofOptions (some (id, offset)) options))
        (lastOther (ofOptions (some (id, offset)) options)))
  | select (id : String) (options : List (Branch Message)) :
      IsForElement pound (.select id (withoutOther (ofOptions pound options))
        (lastOther (ofOptions pound options)))

/-- What the operation for a message can be, where number signs stand for this number. -/
inductive IsForMessage (pound : PoundTarget) : Operation → Prop where
  | single {operation : Operation} (hElement : IsForElement pound operation) :
      IsForMessage pound operation
  | several {parts : List Operation} (hLength : 2 ≤ parts.length)
      (hParts : ∀ part ∈ parts, IsForElement pound part) : IsForMessage pound (.sequence parts)

variable {pound : PoundTarget} {around : List Operation} {child node : Operation}

/-- What an element is compiled to is one of these, with the number sign as the case that needs the
plural. -/
theorem isForElement_ofElement (pound : PoundTarget) (element : Element) :
    IsForElement pound (ofElement pound element) := by
  cases element with
  | literal text => exact .literal text
  | argument id => exact .simple id
  | typed id kind style =>
      cases kind with
      | number => exact .number id _
      | date | time => exact .dateTime id _ _
  | plural id isOrdinal offset options =>
      rw [ofElement]
      exact .plural id _ offset options
  | select id options =>
      rw [ofElement]
      exact .select id options
  | pound =>
      cases pound with
      | none => exact .literal "#"
      | some target => exact .pound rfl

/-- What elements are compiled to is one operation, or a sequence of at least two. -/
theorem isForMessage_ofElements (pound : PoundTarget) (message : Message) :
    IsForMessage pound (ofParts (ofElements pound message)) := by
  rw [ofElements_eq_map]
  match message with
  | [] => exact .single (.literal "")
  | [element] => exact .single (isForElement_ofElement pound element)
  | first :: second :: others =>
      refine .several (Nat.le_add_left 2 _) fun part hPart => ?_
      obtain ⟨element, _, rfl⟩ :
          ∃ element ∈ first :: second :: others, ofElement pound element = part :=
        List.mem_map.mp hPart
      exact isForElement_ofElement pound element

theorem isForMessage_of_mem_ofOptions {options : List (Branch Message)} {branch : Branch Operation}
    (h : branch ∈ ofOptions pound options) : IsForMessage pound branch.content := by
  rw [ofOptions_eq_map] at h
  obtain ⟨option, _, rfl⟩ := List.mem_map.mp h
  rw [← ofElements_eq_map]
  exact isForMessage_ofElements pound option.content

/-- All branches of a clause are for messages, and so is the one that is made up where there is none
for the other cases. -/
theorem isForMessage_of_mem_branches {options : List (Branch Message)}
    (h : child ∈ (withoutOther (ofOptions pound options)).map Branch.content ++
      [lastOther (ofOptions pound options)]) : IsForMessage pound child := by
  rcases List.mem_append.mp h with h | h
  · obtain ⟨branch, hMem, rfl⟩ := List.mem_map.mp h
    exact isForMessage_of_mem_ofOptions (mem_of_mem_withoutOther hMem)
  · rw [List.mem_singleton.mp h, lastOther]
    cases hOther : Branch.find? (ofOptions pound options).reverse "other" with
    | none => exact .single (.literal "")
    | some other =>
        exact Branch.forall_find?
          (fun branch hMem => isForMessage_of_mem_ofOptions (List.mem_reverse.mp hMem)) other hOther

/-- What stands right below the operation for a message is for a message as well. Only a plural
changes what number signs stand for. -/
theorem IsForMessage.of_mem_children (hNode : IsForMessage (nearestPlural? around) node)
    (h : child ∈ node.children) : IsForMessage (nearestPlural? (node :: around)) child := by
  cases hNode with
  | several _ hParts => exact .single (hParts child h)
  | single hElement =>
      cases hElement with
      | plural | select => exact isForMessage_of_mem_branches h
      | literal | simple | number | dateTime | pound => exact absurd h List.not_mem_nil

/-- Whatever stands in a compiled message is for a message, with the number of the nearest plural
around. The induction goes down the tree by one child at a time. -/
theorem Occurs.isForMessage {message : Message} (h : Occurs (ofMessage message) around node) :
    IsForMessage (nearestPlural? around) node := by
  induction h with
  | root => exact isForMessage_ofElements none message
  | child _ hChild ih => exact ih.of_mem_children hChild

theorem nodup_withoutOther (branches : List (Branch Operation)) :
    ((withoutOther branches).map Branch.selector).Nodup :=
  Branch.nodup_merge _

theorem other_not_mem_withoutOther (branches : List (Branch Operation)) :
    "other" ∉ (withoutOther branches).map Branch.selector := by
  intro h
  obtain ⟨branch, hMem, hOther⟩ := List.mem_map.mp h
  have hKept := (List.mem_filter.mp (Branch.mem_of_mem_merge hMem)).2
  simp [hOther] at hKept

theorem IsForElement.ne_sequence (h : IsForElement pound node) (parts : List Operation) :
    node ≠ sequence parts := by
  cases h <;> nofun

/-- An operation for a single element is normal, since it is no sequence. -/
theorem IsForElement.isNormal (h : IsForElement (nearestPlural? around) node) :
    IsNormal around node where
  parts parts hParts := absurd hParts (h.ne_sequence parts)
  distinct := by
    cases h with
    | plural | select => exact nodup_withoutOther _
    | literal | simple | number | dateTime | pound => exact .nil
  other_not_mem := by
    cases h with
    | plural | select => exact other_not_mem_withoutOther _
    | literal | simple | number | dateTime | pound => exact List.not_mem_nil
  offset id offset style hNumber hOffset := by
    cases h with
    | number =>
        cases hNumber
        exact absurd rfl hOffset
    | pound hPound =>
        cases hNumber
        exact ⟨rfl, hPound⟩
    | literal | simple | dateTime | plural | select => cases hNumber

theorem IsForMessage.isNormal (h : IsForMessage (nearestPlural? around) node) :
    IsNormal around node := by
  cases h with
  | single hElement => exact hElement.isNormal
  | several hLength hParts =>
      refine ⟨?_, .nil, List.not_mem_nil, nofun⟩
      rintro parts ⟨⟩
      exact ⟨hLength, fun part hPart => (hParts part hPart).ne_sequence⟩

/-- Every operation in a compiled message is normal: a sequence has two parts or more and none of
them is a sequence, the options of a clause have different selectors and leave out the other cases,
and a number with an offset is written in the default style and is that of the nearest plural. -/
theorem isNormal_of_occurs {message : Message} (h : Occurs (ofMessage message) around node) :
    IsNormal around node :=
  h.isForMessage.isNormal

/-- A number sign in a branch that replaces one with the same selector, below a select and a plural
which both have no branch for the other cases. -/
theorem isNormal_of_occurs_nested : ∃ around,
    Occurs (ofMessage [.plural "n" false 1 [⟨"one", []⟩, ⟨"one", [.select "g" [⟨"m", [.pound]⟩]]⟩]])
      around (number "n" 1 .default) ∧
    IsNormal around (number "n" 1 .default) ∧ nearestPlural? around = some ("n", 1) := by
  have hSelect : Occurs
      (ofMessage [.plural "n" false 1 [⟨"one", []⟩, ⟨"one", [.select "g" [⟨"m", [.pound]⟩]]⟩]])
      _ (select "g" [⟨"m", number "n" 1 .default⟩] (literal "")) :=
    .child .root (List.mem_cons_self ..)
  have hNumber := hSelect.child (List.mem_cons_self ..)
  exact ⟨_, hNumber, isNormal_of_occurs hNumber, rfl⟩

end LocaleMessage.Operation
