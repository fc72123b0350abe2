import LocaleMessage.Proofs.Pattern.Derivation
import Mathlib.Data.List.Count
import Mathlib.Tactic.MkIffOfInductiveProp

/-! What holds of every message that a pattern stands for, at every depth. Trees that were not read
from a pattern need not have any of it. -/
namespace LocaleMessage.Pattern

open Reader

/-- Whether the element is text. -/
def isLiteral : Element → Bool
  | .literal _ => true
  | _ => false

/-- The selectors of a clause: all different, each one a name, and exactly one of them `other`. How
they look otherwise is left open, so exact numbers are among them. -/
@[mk_iff]
structure WellFormedSelectors (selectors : List String) : Prop where
  distinct : selectors.Nodup
  names : ∀ selector ∈ selectors, IsName isSelectorChar selector
  other : selectors.count "other" = 1

mutual

/-- An element that a pattern can stand for, below a plural or not. -/
def WellFormedElement (belowPlural : Bool) : Element → Prop
  | .literal text => text ≠ ""
  | .argument id => IsName isIdChar id
  | .typed id _ style => IsName isIdChar id ∧ style ≠ some ""
  | .plural id _ _ options =>
    IsName isIdChar id ∧ WellFormedSelectors (options.map Branch.selector) ∧
      WellFormedBranches true options
  | .select id options =>
    IsName isIdChar id ∧ WellFormedSelectors (options.map Branch.selector) ∧
      WellFormedBranches belowPlural options
  | .pound => belowPlural = true

/-- Well-formed elements, of which no two neighbours are text. Such neighbours would have been read
as one text. -/
def WellFormedMessage (belowPlural : Bool) : List Element → Prop
  | [] => True
  | element :: rest =>
    WellFormedElement belowPlural element ∧
      (isLiteral element = true → ∀ next, rest.head? = some next → isLiteral next = false) ∧
      WellFormedMessage belowPlural rest

/-- Branches with well-formed messages. Their selectors are looked at by the clause. -/
def WellFormedBranches (belowPlural : Bool) : List (Branch (List Element)) → Prop
  | [] => True
  | ⟨_, message⟩ :: rest =>
    WellFormedMessage belowPlural message ∧ WellFormedBranches belowPlural rest

end

theorem wellFormedBranches_iff {belowPlural : Bool} {branches : List (Branch Message)} :
    WellFormedBranches belowPlural branches ↔
      ∀ branch ∈ branches, WellFormedMessage belowPlural branch.content := by
  induction branches with
  | nil => simp [WellFormedBranches]
  | cons first others ih => simp [WellFormedBranches, ih]

theorem wellFormedElement_of_mem {belowPlural : Bool} {message : Message}
    (h : WellFormedMessage belowPlural message) :
    ∀ element ∈ message, WellFormedElement belowPlural element := by
  induction message with
  | nil => simp
  | cons element rest ih => exact List.forall_mem_cons.mpr ⟨h.1, ih h.2.2⟩

theorem wellFormedElement_of_branches {belowPlural : Bool} {options : List (Branch Message)}
    (h : WellFormedBranches belowPlural options) :
    ∀ branch ∈ options, ∀ element ∈ branch.content, WellFormedElement belowPlural element :=
  fun branch hMem => wellFormedElement_of_mem (wellFormedBranches_iff.mp h branch hMem)

/-- A well-formed element has no selector twice. Elements that are no clause have none at all. -/
theorem WellFormedElement.nodup_options {belowPlural : Bool} {element : Element}
    (h : WellFormedElement belowPlural element) : (element.options.map Branch.selector).Nodup := by
  match element with
  | .literal _ | .argument _ | .typed .. | .pound => exact List.nodup_nil
  | .plural .. | .select .. => exact h.2.1.distinct

/-- What stands in the branches of a well-formed element is well formed, below a plural or not. So
it is at every depth. -/
theorem exists_wellFormed_inner (element : Element)
    (h : ∃ belowPlural, WellFormedElement belowPlural element) :
    ∀ branch ∈ element.options, ∀ inner ∈ branch.content,
      ∃ belowPlural, WellFormedElement belowPlural inner := by
  obtain ⟨belowPlural, hElement⟩ := h
  match element with
  | .literal _ | .argument _ | .typed .. | .pound => exact fun _ hBranch => nomatch hBranch
  | .plural .. | .select .. =>
      intro branch hBranch inner hInner
      exact ⟨_, wellFormedElement_of_branches hElement.2.2 branch hBranch inner hInner⟩

/-- Text may stand in front of anything that does not begin with text. The empty text adds no
element. -/
theorem wellFormedMessage_text_append {belowPlural : Bool} {text : List Char}
    {message : Message} (hHead : ∀ next, message.head? = some next → isLiteral next = false)
    (hMessage : WellFormedMessage belowPlural message) :
    WellFormedMessage belowPlural (textElements text ++ message) := by
  cases text with
  | nil => exact hMessage
  | cons c others => exact ⟨by simp [WellFormedElement], fun _ => hHead, hMessage⟩

/-- Only selectors that were written are kept, and each is kept once. So the branch for the other
cases is there once, however often it was written. -/
theorem wellFormedSelectors_merge {branches : List (Branch Message)}
    (hNames : ∀ branch ∈ branches, IsName isSelectorChar branch.selector)
    (hOther : ∃ branch ∈ branches, branch.selector = "other") :
    WellFormedSelectors ((Branch.merge branches).map Branch.selector) where
  distinct := Branch.nodup_merge branches
  names := by
    simp only [List.mem_map]
    rintro _ ⟨branch, hMem, rfl⟩
    exact hNames branch (Branch.mem_of_mem_merge hMem)
  other := by
    refine List.count_eq_one_of_mem (Branch.nodup_merge branches) ?_
    exact List.mem_map.mpr ((Branch.exists_mem_merge branches "other").mpr hOther)

theorem WellFormedSelectors.exists_other {branches : List (Branch Message)}
    (h : WellFormedSelectors (branches.map Branch.selector)) :
    ∃ branch ∈ branches, branch.selector = "other" := by
  refine List.mem_map.mp (List.count_pos_iff.mp ?_)
  rw [h.other]
  exact Nat.one_pos

theorem ofSelect_eq_plural_iff (scope : Scope) : scope.ofSelect = .plural ↔ scope = .plural := by
  cases scope <;> decide

theorem Format.isLiteral_element (f : Format) (id : String) (style : Option String) :
    isLiteral (f.element id style) = false := by
  cases f <;> rfl

/-- Every keyword makes a well-formed element, with a style that is not empty or with none. -/
theorem Format.wellFormed_element {f : Format} {belowPlural : Bool} {id : String}
    {style : Option String} (hId : IsName isIdChar id) (hStyle : style ≠ some "") :
    WellFormedElement belowPlural (f.element id style) := by
  cases f with
  | number | date | time => exact ⟨hId, hStyle⟩
  | ordinal | duration | spellout =>
      refine ⟨hId, ?_⟩
      simp [Format.text]

/-- A plural has its branches below it, whether it counts or tells positions. -/
theorem Clause.wellFormed_element {clause : Clause} {belowPlural : Bool} {id : String}
    {offset : UInt32} {options : List (Branch Message)} (hClause : clause ≠ .select)
    (hId : IsName isIdChar id) (hSelectors : WellFormedSelectors (options.map Branch.selector))
    (hOptions : WellFormedBranches true options) :
    WellFormedElement belowPlural (clause.element id offset options) := by
  cases clause with
  | plural | selectordinal => exact ⟨hId, hSelectors, hOptions⟩
  | select => exact absurd rfl hClause

/-- An argument never stands for text, so texts come only from between arguments. -/
theorem DerivesArgument.not_isLiteral {scope : Scope} {input rest : List Char} {element : Element}
    (h : DerivesArgument scope input element rest) : isLiteral element = false := by
  cases h with
  | pound | plain | select => rfl
  | format | styled => exact Format.isLiteral_element ..
  | @plural _ _ clause => cases clause <;> rfl

mutual

/-- What is derived as a message is well formed: text that goes as far as it can has no text behind
it. The three statements go by recursion on the derivation. -/
theorem DerivesMessage.wellFormed : {scope : Scope} → {input rest : List Char} →
    {message : Message} → DerivesMessage scope input message rest →
      WellFormedMessage (scope = .plural) message
  | scope, _, _, _, .last _ => by
      have hNil : WellFormedMessage (scope = .plural) [] := trivial
      simpa using wellFormedMessage_text_append (by simp) hNil
  | _, _, _, _, .cons _ hArgument hMessage => by
      have hElement := hArgument.not_isLiteral
      refine wellFormedMessage_text_append ?_ ⟨hArgument.wellFormed, ?_, hMessage.wellFormed⟩
      · rintro next ⟨⟩
        exact hElement
      · simp [hElement]

theorem DerivesArgument.wellFormed : {scope : Scope} → {input rest : List Char} →
    {element : Element} → DerivesArgument scope input element rest →
      WellFormedElement (scope = .plural) element
  | _, _, _, _, .pound => rfl
  | _, _, _, _, .plain hId _ => hId
  | _, _, _, _, .format hId _ _ => Format.wellFormed_element hId (by simp)
  | _, _, _, _, .styled hId _ _ _ _ hNonempty _ =>
      Format.wellFormed_element hId (by simpa using hNonempty)
  | _, _, _, _, .plural hId _ hClause _ _ _ hBranches hOther => by
      obtain ⟨hNames, hContents⟩ := hBranches.wellFormed
      refine Clause.wellFormed_element hClause hId (wellFormedSelectors_merge hNames hOther) ?_
      exact wellFormedBranches_iff.mpr fun branch hMem =>
        hContents branch (Branch.mem_of_mem_merge hMem)
  | scope, _, _, _, .select hId _ _ _ hBranches hOther => by
      obtain ⟨hNames, hContents⟩ := hBranches.wellFormed
      simp only [ofSelect_eq_plural_iff] at hContents
      refine ⟨hId, wellFormedSelectors_merge hNames hOther, ?_⟩
      exact wellFormedBranches_iff.mpr fun branch hMem =>
        hContents branch (Branch.mem_of_mem_merge hMem)

/-- The branches as they are written, with repeated selectors still in place. They are merged where
their clause is closed. -/
theorem DerivesBranches.wellFormed : {scope : Scope} → {input rest : List Char} →
    {branches : List (Branch Message)} → DerivesBranches scope input branches rest →
      (∀ branch ∈ branches, IsName isSelectorChar branch.selector) ∧
        ∀ branch ∈ branches, WellFormedMessage (scope = .plural) branch.content
  | _, _, _, _, .nil => by simp
  | _, _, _, _, .cons hName _ hMessage _ hOthers => by
      obtain ⟨hNames, hContents⟩ := hOthers.wellFormed
      exact ⟨List.forall_mem_cons.mpr ⟨hName, hNames⟩,
        List.forall_mem_cons.mpr ⟨hMessage.wellFormed, hContents⟩⟩

end

/-- Every message that a pattern stands for is well formed. At the top it is not below a plural, so
it has no number signs there. -/
theorem wellFormed_of_parse {pattern : String} {message : Message}
    (h : parse pattern = .ok message) : WellFormedMessage false message :=
  (derives_of_parseChars h).wellFormed

/-- A repeated selector, a quoted brace, and a number sign in a select below a plural. -/
theorem wellFormed_nested :
    WellFormedMessage false [.plural "n" false 1 [⟨"a", [.literal "x\x7b"]⟩,
      ⟨"other", [.select "g" [⟨"other", [.pound]⟩]]⟩]] := by
  have hParse : parse
      "\x7bn,plural,offset:1 a\x7b\x7da\x7bx'\x7b'\x7dother\x7b\x7bg,select,other\x7b#\x7d\x7d\x7d\x7d" =
        .ok [.plural "n" false 1 [⟨"a", [.literal "x\x7b"]⟩,
          ⟨"other", [.select "g" [⟨"other", [.pound]⟩]]⟩]] := by
    unfold parse
    simp only [String.reduceToList]
    rfl
  exact wellFormed_of_parse hParse

end LocaleMessage.Pattern
