import LocaleMessage.Inspect.Rows
import LocaleMessage.Proofs.Branch
import LocaleMessage.Proofs.Place

/-! The table of a message. It has a row for every element at any depth, with the path that leads to
it, and read from top to bottom it names the arguments of the message. -/
namespace LocaleMessage

/-- The argument that an element names. Text and number signs name none; the number sign reads one
all the same. -/
def Element.argument? : Element → Option String
  | literal _ | pound => none
  | argument id | typed id _ _ | plural id _ _ _ | select id _ => some id

/-- The word for what an element is. A formatted argument goes by what it is formatted as, and a
plural of positions has a word of its own. -/
def Element.kindText : Element → String
  | literal _ => "literal"
  | argument _ => "argument"
  | typed _ .number _ => "number"
  | typed _ .date _ => "date"
  | typed _ .time _ => "time"
  | plural _ false _ _ => "plural"
  | plural _ true _ _ => "selectordinal"
  | select _ _ => "select"
  | pound => "pound"

/-- What is to be said of an element besides its argument: the text itself in quotes, the style as
it is written, and of a clause how many options it has. An offset of zero is the same as none and is
not told. -/
def Element.detailText : Element → String
  | literal text => Text.quoted text
  | typed _ _ style => style.getD ""
  | plural _ _ offset options =>
    if 0 < offset.toNat then
      "offset " ++ toString offset.toNat ++ ", " ++ toString options.length ++ " options"
    else toString options.length ++ " options"
  | select _ options => toString options.length ++ " options"
  | argument _ | pound => ""

namespace Inspect

/-- The branches around an element from the outside in, each by its clause's argument and its
selector. At the top of a message the path is empty. -/
def pathText (enclosing : List Enclosing) : String :=
  "/".intercalate <|
    enclosing.map fun around => around.clause.argument?.getD "" ++ "/" ++ around.selector

/-- The row that tells of an element and where it stands. It is made of the place and the element
alone, and not by going through a tree. -/
def occurrenceRow (o : Occurrence) : Row :=
  ⟨pathText o.enclosing, o.element.kindText, o.element.argument?.getD "", o.element.detailText⟩

/-- A path has a separator for each branch, so it is empty only at the top. This is how the program
tells whether a path has begun. -/
theorem pathText_ne_empty {enclosing : List Enclosing} (h : enclosing ≠ []) :
    pathText enclosing ≠ "" := by
  obtain ⟨around, others, rfl⟩ := List.exists_cons_of_ne_nil h
  rw [pathText, List.map_cons, String.append_assoc, String.intercalate_cons_append]
  cases others with
  | nil => simp [String.intercalate_singleton]
  | cons next others =>
      rw [List.map_cons, String.intercalate_cons_cons]
      simp

/-- A path goes on as that of a branch. The first branch has no separator in front of it, and each
other one has. -/
theorem pathText_concat (enclosing : List Enclosing) (clause : Element) (selector : String) :
    pathText (enclosing ++ [⟨clause, selector⟩]) =
      branchPath (pathText enclosing) (clause.argument?.getD "") selector := by
  by_cases h : enclosing = []
  · subst h
    simp [pathText, branchPath, String.intercalate_singleton]
  · rw [branchPath, if_neg (by simpa using pathText_ne_empty h), pathText, List.map_append,
      String.intercalate_append_of_ne_nil (by simpa using h) (by simp), List.map_singleton,
      String.intercalate_singleton, ← pathText]
    simp only [String.append_assoc]

theorem natText_eq (n : Nat) : natText n = toString n :=
  rfl

/-- How many options a clause has is told behind its offset, if it is not zero. -/
theorem optionsText_eq (offset : UInt32) (options : Nat) :
    optionsText offset options =
      if 0 < offset.toNat then
        "offset " ++ toString offset.toNat ++ ", " ++ toString options ++ " options"
      else toString options ++ " options" := by
  have hOffset : offset = 0 ↔ ¬ 0 < offset.toNat := by
    rw [← UInt32.toNat_inj]
    simp
  by_cases h : 0 < offset.toNat
  · rw [if_pos h, optionsText, if_neg (mt hOffset.mp (not_not.mpr h))]
    simp only [natText_eq, String.append_assoc]
  · rw [if_neg h, optionsText, if_pos (hOffset.mpr h), natText_eq, String.empty_append]

/-- The row of an element says where it stands, what it is, which argument it names and what else is
to be said of it. All four fields are fixed by this. -/
theorem elementRow_eq (path : String) (element : Element) :
    elementRow path element =
      ⟨path, element.kindText, element.argument?.getD "", element.detailText⟩ := by
  cases element with
  | literal | argument | pound => rfl
  | typed id kind style => cases kind <;> rfl
  | plural id ordinal offset options =>
      rw [elementRow, optionsText_eq]
      cases ordinal <;> rfl
  | select id options =>
      rw [elementRow, optionsText_eq]
      rfl

theorem messageRows_eq (path : String) (message : Message) :
    messageRows path message = message.flatMap (elementRows path) := by
  induction message with
  | nil => rw [messageRows, List.flatMap_nil]
  | cons element rest ih => rw [messageRows, ih, List.flatMap_cons]

theorem optionRows_eq (path id : String) (options : List (Branch Message)) :
    optionRows path id options = options.flatMap fun branch =>
      branch.content.flatMap (elementRows (branchPath path id branch.selector)) := by
  induction options with
  | nil => rw [optionRows, List.flatMap_nil]
  | cons branch rest ih => rw [optionRows, ih, List.flatMap_cons, messageRows_eq]

/-- An element has its own row in front of the rows of its branches. For elements that are no clause
there are no others. -/
theorem elementRows_eq (path : String) (element : Element) :
    elementRows path element = elementRow path element :: element.options.flatMap fun branch =>
      branch.content.flatMap
        (elementRows (branchPath path (element.argument?.getD "") branch.selector)) := by
  cases element with
  | literal | argument | typed | pound => simp [elementRows, Element.options]
  | plural | select => simp [elementRows, optionRows_eq, Element.options, Element.argument?]

/-- Below any branches, the rows of an element are those of the elements at its places. The
induction is on the element, with the branches around it carried along. -/
theorem listsInOrder_elementRows (element : Element) (enclosing : List Enclosing) :
    ListsInOrder (elementRows (pathText enclosing) element) fun place =>
      (element.below? place).map fun o => occurrenceRow ⟨enclosing ++ o.enclosing, o.element⟩ := by
  induction element using Element.induct generalizing enclosing with
  | step element ih =>
      have hBranches : ∀ branch ∈ element.options, ∀ inner ∈ branch.content,
          ListsInOrder (elementRows (branchPath (pathText enclosing) (element.argument?.getD "")
            branch.selector) inner) fun place => (inner.below? place).map fun o =>
              occurrenceRow ⟨enclosing ++ ⟨element, branch.selector⟩ :: o.enclosing, o.element⟩ := by
        intro branch hBranch inner hInner
        have hInner := ih branch hBranch inner hInner (enclosing ++ [⟨element, branch.selector⟩])
        simpa only [pathText_concat, List.append_assoc, List.singleton_append] using hInner
      have hOwn : elementRow (pathText enclosing) element =
          occurrenceRow ⟨enclosing ++ [], element⟩ := by
        rw [List.append_nil, elementRow_eq, occurrenceRow]
      rw [elementRows_eq, hOwn]
      exact .element (f := fun o => occurrenceRow ⟨enclosing ++ o.enclosing, o.element⟩)
        fun branch hBranch => .message (hBranches branch hBranch)

theorem listsInOrder_rows (message : Message) :
    ListsInOrder (rows message) fun place => (Message.at? message place).map occurrenceRow := by
  rw [rows, messageRows_eq]
  exact .message fun element _ => listsInOrder_elementRows element []

/-- The arguments that rows name, from top to bottom. Only rows of text and of number signs name
none. -/
def namedArguments (rows : List Row) : List String :=
  (rows.filter fun row => row.kind ≠ "literal" ∧ row.kind ≠ "pound").map Row.id

/-- A row names the argument of its element, if it has one, so the word for what it is tells the two
cases apart. -/
theorem namedArguments_elementRow (path : String) (element : Element) :
    namedArguments [elementRow path element] = element.argument?.toList := by
  cases element with
  | literal | argument | select | pound => rfl
  | typed id kind style => cases kind <;> rfl
  | plural id ordinal offset options => cases ordinal <;> rfl

theorem namedArguments_append (rows rows' : List Row) :
    namedArguments (rows ++ rows') = namedArguments rows ++ namedArguments rows' := by
  rw [namedArguments, List.filter_append, List.map_append]
  rfl

theorem namedArguments_flatMap {α : Type} (xs : List α) (rows : α → List Row) :
    namedArguments (xs.flatMap rows) = xs.flatMap fun x => namedArguments (rows x) := by
  rw [namedArguments, List.filter_flatMap, List.map_flatMap]
  rfl

theorem addMessageIds_eq (ids : List String) (message : Message) :
    addMessageIds ids message = message.foldl Element.addIds ids := by
  induction message generalizing ids with
  | nil => rw [addMessageIds, List.foldl_nil]
  | cons element rest ih => rw [addMessageIds, ih, List.foldl_cons]

theorem addOptionIds_eq (ids : List String) (options : List (Branch Message)) :
    addOptionIds ids options =
      options.foldl (fun ids branch => branch.content.foldl Element.addIds ids) ids := by
  induction options generalizing ids with
  | nil => rw [addOptionIds, List.foldl_nil]
  | cons branch rest ih => rw [addOptionIds, ih, List.foldl_cons, addMessageIds_eq]

theorem addIds_eq (ids : List String) (element : Element) :
    element.addIds ids = element.options.foldl
      (fun ids branch => branch.content.foldl Element.addIds ids)
      (element.argument?.toList.foldl (fun ids id => insertLast id ids) ids) := by
  cases element with
  | literal | argument | typed | pound => simp [Element.addIds, Element.options, Element.argument?]
  | plural | select =>
      simp [Element.addIds, addOptionIds_eq, Element.options, Element.argument?]

/-- What is added to a list of arguments for an element is what its rows name, in the same order.
The path of the rows plays no part. -/
theorem addIds_eq_foldl (element : Element) (path : String) (ids : List String) :
    element.addIds ids =
      (namedArguments (elementRows path element)).foldl (fun ids id => insertLast id ids) ids := by
  induction element using Element.induct generalizing path ids with
  | step element ih =>
      have hRows : namedArguments (elementRows path element) = element.argument?.toList ++
          element.options.flatMap fun branch => branch.content.flatMap fun inner => namedArguments
            (elementRows (branchPath path (element.argument?.getD "") branch.selector) inner) := by
        simp only [← namedArguments_elementRow path, ← namedArguments_flatMap]
        rw [elementRows_eq, ← List.singleton_append, namedArguments_append]
      rw [addIds_eq, hRows, List.foldl_append, List.foldl_flatMap]
      refine List.foldl_ext _ _ _ fun ids branch hBranch => ?_
      rw [List.foldl_flatMap]
      exact List.foldl_ext _ _ _ fun ids inner hInner => ih branch hBranch inner hInner _ ids

/-- The table of a message goes through its elements and names its arguments. There is one row for
every place at which an element stands, in the order of the places. It tells the path of the
branches around the element, what the element is, its argument and what else is to be said of it. A
clause has its row before all that stands below it. The arguments that the rows name, each where it
is first named, are those of the message. -/
theorem rows_tell_message (message : Message) :
    (∃ entries : List (List Nat × Row), entries.map Prod.snd = rows message ∧
      entries.Pairwise (fun earlier later => earlier.1 < later.1) ∧
      (∀ place row, (place, row) ∈ entries ↔ ∃ o, Message.at? message place = some o ∧
        row.path = pathText o.enclosing ∧ row.kind = o.element.kindText ∧
        row.id = o.element.argument?.getD "" ∧ row.detail = o.element.detailText) ∧
      ∀ clause below row row', below ≠ [] → (clause, row) ∈ entries →
        (clause ++ below, row') ∈ entries →
          [(clause, row), (clause ++ below, row')].Sublist entries) ∧
    (namedArguments (rows message)).eraseDups = message.argumentIds := by
  constructor
  · obtain ⟨entries, hRows, hSorted, hMem⟩ := listsInOrder_rows message
    refine ⟨entries, hRows, hSorted, fun place row => ?_, ?_⟩
    · cases row
      rw [hMem, Option.map_eq_some_iff]
      simp only [occurrenceRow, Row.mk.injEq, eq_comm]
    · intro clause below row row' hBelow hClause hRow
      exact pair_sublist_of_lt hSorted hClause hRow (place_lt_append clause hBelow)
  · have hAdded : message.argumentIds =
        (namedArguments (rows message)).foldl (fun ids id => insertLast id ids) [] := by
      rw [Message.argumentIds, addMessageIds_eq, rows, messageRows_eq, namedArguments_flatMap,
        List.foldl_flatMap]
      exact List.foldl_ext _ _ _ fun ids element _ => addIds_eq_foldl element "" ids
    rw [hAdded, Branch.foldl_insertLast]
    simp

end Inspect

end LocaleMessage
