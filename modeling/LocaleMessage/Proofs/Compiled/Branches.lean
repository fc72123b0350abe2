import LocaleMessage.Proofs.Compiled.Arguments
import LocaleMessage.Proofs.Pattern.WellFormed
import LocaleMessage.Proofs.Place

/-! A message and its compiled form have the same branches. A clause keeps all of its branches in
one list, and the operation for it has the branch for the other cases apart; that both answer alike
rests on what holds of a message that was read from a pattern. They are compared at the place where
the clause stands in the message and its operation in the compiled one. -/
namespace LocaleMessage

/-- The operations that run one after the other. Only a sequence has several of them, or none. -/
def Operation.parts : Operation → List Operation
  | sequence parts => parts
  | operation => [operation]

mutual

/-- What stands in an operation for a message where the place leads to: the parts are numbered as
the elements are, and the way goes on below a clause in the branch for the selector. -/
def Message.operationAt? (message : List Element) (operation : Operation) :
    List Nat → Option Operation
  | [] => none
  | i :: place => message[i]?.bind fun element =>
    operation.parts[i]?.bind fun part => element.operationBelow? part place

def Element.operationBelow? (element : Element) (operation : Operation) :
    List Nat → Option Operation
  | [] => some operation
  | j :: place => element.options[j]?.bind fun branch =>
    (operation.branch? branch.selector).bind fun inner =>
      Message.operationAt? branch.content inner place

end

/-- What a number sign in a branch of the element stands for, from what it stands for outside. A
select changes nothing. -/
def Element.poundBelow (pound : Operation.PoundTarget) : Element → Operation.PoundTarget
  | .plural id _ offset _ => some (id, offset)
  | _ => pound

/-- What a number sign next to the element stands for, from what it stands for outside of all
branches around: the number of the nearest plural. -/
def Occurrence.pound (pound : Operation.PoundTarget) (o : Occurrence) : Operation.PoundTarget :=
  o.enclosing.foldl (fun pound around => around.clause.poundBelow pound) pound

namespace Operation

theorem parts_ofElement (pound : PoundTarget) (element : Element) :
    (ofElement pound element).parts = [ofElement pound element] := by
  cases element with
  | typed _ kind _ => cases kind <;> (rw [ofElement]; rfl)
  | pound => cases pound <;> (rw [ofElement]; rfl)
  | literal | argument | plural | select =>
      rw [ofElement]
      rfl

/-- The operation for a message has one part for each element, unless there are none. A message
without elements is compiled to an empty text. -/
theorem parts_ofElements (pound : PoundTarget) {message : Message} (h : message ≠ []) :
    (ofParts (ofElements pound message)).parts = message.map (ofElement pound) := by
  rw [ofElements_eq_map]
  match message with
  | [element] => exact parts_ofElement pound element
  | _ :: _ :: _ => rfl

theorem find?_ofBranches (pound : PoundTarget) (options : List (Branch Message))
    (selector : String) :
    Branch.find? (ofOptions pound options) selector =
      (Branch.find? options selector).map fun message => ofParts (ofElements pound message) := by
  rw [ofOptions_eq_map, ← Branch.find?_map_content]
  simp only [ofElements_eq_map]

/-- Taking the branch for the other cases out of the list loses no branch of a well-formed clause
and changes none. -/
theorem branch_ofOptions (pound : PoundTarget) {options : List (Branch Message)}
    (h : Pattern.WellFormedSelectors (options.map Branch.selector)) (selector : String) :
    (if selector = "other" then some (lastOther (ofOptions pound options))
      else Branch.find? (withoutOther (ofOptions pound options)) selector) =
      (Branch.find? options selector).map fun message => ofParts (ofElements pound message) := by
  have hDistinct : ((ofOptions pound options).map Branch.selector).Nodup := by
    rw [ofOptions_eq_map, List.map_map]
    exact h.distinct
  split_ifs with hOther
  · obtain ⟨other, hFind⟩ := Option.isSome_iff_exists.mp
      ((Branch.find?_isSome_iff options "other").mpr h.exists_other)
    rw [lastOther, Branch.find?_reverse_of_nodup hDistinct, find?_ofBranches, hOther, hFind]
    rfl
  · rw [find?_withoutOther, if_neg hOther, Branch.find?_reverse_of_nodup hDistinct,
      find?_ofBranches]

/-- A well-formed clause and the operation for it have branches for the same selectors, and the
branch of the operation is for the message in that of the clause. -/
theorem branch?_ofElement {belowPlural : Bool} {element : Element}
    (h : Pattern.WellFormedElement belowPlural element) (pound : PoundTarget) (selector : String) :
    (ofElement pound element).branch? selector =
      (element.option? selector).map fun message =>
        ofParts (ofElements (element.poundBelow pound) message) := by
  match element with
  | .literal _ | .argument _ | .typed _ .number _ | .typed _ .date _ | .typed _ .time _ =>
      rw [ofElement]
      rfl
  | .plural id _ offset options =>
      rw [ofElement]
      exact branch_ofOptions (some (id, offset)) h.2.1 selector
  | .select _ options =>
      rw [ofElement]
      exact branch_ofOptions pound h.2.1 selector
  | .pound => cases pound <;> (rw [ofElement]; rfl)

end Operation

/-- If what stands below the elements of a message is found below the operations for them, what
stands somewhere in the message is found in the operation for the message. -/
theorem operationAt?_ofElements {message : Message} {pound : Operation.PoundTarget}
    (h : ∀ element ∈ message, ∀ {place : List Nat} {o : Occurrence},
      element.below? place = some o →
        element.operationBelow? (Operation.ofElement pound element) place =
          some (Operation.ofElement (o.pound pound) o.element))
    {place : List Nat} {o : Occurrence} (hPlace : Message.at? message place = some o) :
    Message.operationAt? message (Operation.ofParts (Operation.ofElements pound message)) place =
      some (Operation.ofElement (o.pound pound) o.element) := by
  obtain ⟨i, below, element, rfl, hElement, hBelow⟩ := Message.at?_eq_some_iff.mp hPlace
  have hMem := List.mem_of_getElem? hElement
  have hParts := Operation.parts_ofElements pound (List.ne_nil_of_mem hMem)
  rw [Message.operationAt?, hParts, List.getElem?_map, hElement]
  exact h element hMem hBelow

/-- Where a place leads below an element, it leads in the operation for the element to the operation
for what stands there, with the number that a number sign there stands for. -/
theorem operationBelow?_ofElement {element : Element}
    (h : ∃ belowPlural, Pattern.WellFormedElement belowPlural element)
    (pound : Operation.PoundTarget) {place : List Nat} {o : Occurrence}
    (hPlace : element.below? place = some o) :
    element.operationBelow? (Operation.ofElement pound element) place =
      some (Operation.ofElement (o.pound pound) o.element) := by
  induction element using Element.induct generalizing pound place o with
  | step element ih =>
      obtain ⟨rfl, rfl⟩ | ⟨j, inner, branch, o', rfl, hNumber, hAt, rfl⟩ :=
        Element.below?_eq_some_iff.mp hPlace
      · rfl
      · have hMem := List.mem_of_getElem? hNumber
        obtain ⟨belowPlural, hElement⟩ := h
        have hBranch : (Operation.ofElement pound element).branch? branch.selector =
            some (Operation.ofParts
              (Operation.ofElements (element.poundBelow pound) branch.content)) := by
          rw [Operation.branch?_ofElement hElement, Element.option?,
            Branch.find?_of_mem hElement.nodup_options hMem]
          rfl
        have hInner := Pattern.exists_wellFormed_inner element ⟨belowPlural, hElement⟩ branch hMem
        rw [Element.operationBelow?, hNumber, Option.bind_some, hBranch]
        exact operationAt?_ofElements (fun inner hContent =>
          ih branch hMem inner hContent (hInner inner hContent) _) hAt

/-- Wherever an element stands in the message of a pattern, the operation for it stands in the
compiled message; it has branches for the same selectors as the element; and each of them is the
operation for the message in the branch of the element, where a number sign stands for the number of
the element itself if that is a plural, and otherwise for that of the nearest plural around it. -/
theorem branch?_operationAt?_ofMessage {pattern : String} {message : Message}
    (h : Pattern.parse pattern = .ok message) {place : List Nat} {o : Occurrence}
    (hPlace : Message.at? message place = some o) :
    ∃ operation, Message.operationAt? message (Operation.ofMessage message) place = some operation ∧
      operation = Operation.ofElement (o.pound none) o.element ∧
      ∀ selector, operation.branch? selector = (o.element.option? selector).map fun inner =>
        Operation.ofParts (Operation.ofElements (o.element.poundBelow (o.pound none)) inner) := by
  have hMessage := (Pattern.derives_of_parseChars h).wellFormed
  have hElements (element : Element) (hMem : element ∈ message) :
      ∃ belowPlural, Pattern.WellFormedElement belowPlural element :=
    ⟨false, Pattern.wellFormedElement_of_mem hMessage element hMem⟩
  obtain ⟨_, hOccurrence⟩ :
      ∃ belowPlural, Pattern.WellFormedElement belowPlural o.element := by
    obtain ⟨i, below, element, rfl, hElement, hBelow⟩ := Message.at?_eq_some_iff.mp hPlace
    exact Element.forall_below Pattern.exists_wellFormed_inner
      (hElements element (List.mem_of_getElem? hElement)) hBelow
  refine ⟨_, ?_, rfl, Operation.branch?_ofElement hOccurrence _⟩
  exact operationAt?_ofElements
    (fun element hMem => operationBelow?_ofElement (hElements element hMem) none) hPlace

/-- A select below a plural: its number sign is the number of the plural. -/
theorem branch?_operationAt?_nested :
    ∃ message operation, Pattern.parse
        "\x7bn,plural,offset:1 other\x7b\x7bg,select,m\x7bhe\x7dother\x7b#\x7d\x7d\x7d\x7d" =
          .ok message ∧
      Message.operationAt? message (Operation.ofMessage message) [0, 0, 0] = some operation ∧
      operation.branch? "m" = some (.literal "he") ∧
      operation.branch? "other" = some (.number "n" 1 .default) ∧ operation.branch? "f" = none := by
  have hParse : Pattern.parse
      "\x7bn,plural,offset:1 other\x7b\x7bg,select,m\x7bhe\x7dother\x7b#\x7d\x7d\x7d\x7d" =
        .ok [.plural "n" false 1 [⟨"other",
          [.select "g" [⟨"m", [.literal "he"]⟩, ⟨"other", [.pound]⟩]]⟩]] := by
    unfold Pattern.parse
    simp only [String.reduceToList]
    rfl
  obtain ⟨operation, hAt, _, hBranch⟩ := @branch?_operationAt?_ofMessage _ _ hParse [0, 0, 0] _ rfl
  refine ⟨_, operation, hParse, hAt, ?_, ?_, ?_⟩
  · rw [hBranch]
    rfl
  · rw [hBranch]
    rfl
  · rw [hBranch]
    rfl

end LocaleMessage
