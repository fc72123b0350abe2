import LocaleMessage.Pattern.Message
import Mathlib.Data.List.Basic

/-! The elements of a message at every depth. A place counts its way down to one of them, by
elements of a message and branches of a clause in turn, so that places are in the order in which a
message is read: a clause comes before all that is below it. -/
namespace LocaleMessage

/-- A branch around an element: its clause and its selector. The clause is kept whole, with all its
branches. -/
structure Enclosing where
  clause : Element
  selector : String

/-- An element, and the branches around it from the outside in. Equal elements at two places are two
occurrences. -/
structure Occurrence where
  enclosing : List Enclosing
  element : Element

/-- The same element seen from outside one more branch. -/
def Occurrence.within (around : Enclosing) (o : Occurrence) : Occurrence :=
  ⟨around :: o.enclosing, o.element⟩

mutual

/-- What stands at a place of a message. The first number is that of an element, and no place at all
is at none. -/
def Message.at? (message : List Element) : List Nat → Option Occurrence
  | [] => none
  | i :: place => message[i]?.bind fun element => element.below? place

/-- What stands at a place at or below an element. The first number is that of a branch. -/
def Element.below? (element : Element) : List Nat → Option Occurrence
  | [] => some ⟨[], element⟩
  | j :: place => element.options[j]?.bind fun branch =>
    (Message.at? branch.content place).map (Occurrence.within ⟨element, branch.selector⟩)

end

/-- To prove something of all elements, it is enough to prove it of each from all that stand in its
branches. -/
@[elab_as_elim]
theorem Element.induct {motive : Element → Prop}
    (step : ∀ element, (∀ branch ∈ element.options, ∀ inner ∈ branch.content, motive inner) →
      motive element) (element : Element) : motive element :=
  @Element.rec motive (fun options => ∀ branch ∈ options, ∀ inner ∈ branch.content, motive inner)
    (fun branch => ∀ inner ∈ branch.content, motive inner)
    (fun message => ∀ inner ∈ message, motive inner)
    (fun _ => step _ (fun _ h => nomatch h)) (fun _ => step _ (fun _ h => nomatch h))
    (fun _ _ _ => step _ (fun _ h => nomatch h)) (fun _ _ _ _ ih => step _ ih)
    (fun _ _ ih => step _ ih) (step _ (fun _ h => nomatch h))
    (fun _ h => nomatch h) (fun _ _ hFirst hOthers => List.forall_mem_cons.mpr ⟨hFirst, hOthers⟩)
    (fun _ _ h => h)
    (fun _ h => nomatch h) (fun _ _ hFirst hOthers => List.forall_mem_cons.mpr ⟨hFirst, hOthers⟩)
    element

/-- What stands somewhere in a message stands at one of its elements or below it. The place tells at
which. -/
theorem Message.at?_eq_some_iff {message : Message} {place : List Nat} {o : Occurrence} :
    Message.at? message place = some o ↔ ∃ i below element, place = i :: below ∧
      message[i]? = some element ∧ element.below? below = some o := by
  cases place <;> simp [Message.at?, Option.bind_eq_some_iff]

/-- What stands at or below an element is the element itself, or stands somewhere in one of its
branches. -/
theorem Element.below?_eq_some_iff {element : Element} {place : List Nat} {o : Occurrence} :
    element.below? place = some o ↔ place = [] ∧ ⟨[], element⟩ = o ∨
      ∃ j inner branch o', place = j :: inner ∧ element.options[j]? = some branch ∧
        Message.at? branch.content inner = some o' ∧
          o'.within ⟨element, branch.selector⟩ = o := by
  cases place <;> simp [Element.below?, Option.bind_eq_some_iff]

/-- What each element hands on to all that stand in its branches comes to every depth. The branches
themselves need no property. -/
theorem Element.forall_below {p : Element → Prop}
    (step : ∀ element, p element → ∀ branch ∈ element.options, ∀ inner ∈ branch.content, p inner)
    {element : Element} (h : p element) {place : List Nat} {o : Occurrence}
    (hPlace : element.below? place = some o) : p o.element := by
  induction element using Element.induct generalizing place o with
  | step element ih =>
      obtain ⟨rfl, rfl⟩ | ⟨_, _, branch, o', rfl, hBranch, hAt, rfl⟩ :=
        Element.below?_eq_some_iff.mp hPlace
      · exact h
      · obtain ⟨_, _, inner, rfl, hInner, hBelow⟩ := Message.at?_eq_some_iff.mp hAt
        have hBranch := List.mem_of_getElem? hBranch
        have hInner := List.mem_of_getElem? hInner
        have hOccurrence : p o'.element :=
          ih branch hBranch inner hInner (step element h branch hBranch inner hInner) hBelow
        exact hOccurrence

/-- The values of a function on places, each once and in the order of their places. Values may be
equal, places may not. -/
def ListsInOrder {α : Type} (values : List α) (value? : List Nat → Option α) : Prop :=
  ∃ entries : List (List Nat × α), entries.map Prod.snd = values ∧
    entries.Pairwise (fun earlier later => earlier.1 < later.1) ∧
    ∀ place value, (place, value) ∈ entries ↔ value? place = some value

/-- A place comes before all places below it, which is why a clause comes before what stands in its
branches. -/
theorem place_lt_append (place : List Nat) {below : List Nat} (h : below ≠ []) :
    place < place ++ below := by
  induction place with
  | nil =>
      obtain ⟨i, others, rfl⟩ := List.exists_cons_of_ne_nil h
      exact List.nil_lt_cons i others
  | cons i others ih => exact List.cons_lt_cons_iff.mpr (Or.inr ⟨rfl, ih⟩)

/-- In a list that is in the order of places, what has the smaller place comes first. -/
theorem pair_sublist_of_lt {α : Type} {entries : List (List Nat × α)}
    (hSorted : entries.Pairwise fun earlier later => earlier.1 < later.1)
    {first second : List Nat × α} (hFirst : first ∈ entries) (hSecond : second ∈ entries)
    (hLess : first.1 < second.1) : [first, second].Sublist entries := by
  obtain ⟨before, after, rfl⟩ := List.append_of_mem hFirst
  obtain ⟨_, hAfter, hBefore⟩ := List.pairwise_append.mp hSorted
  have hLater : second ∈ after := by
    rcases List.mem_append.mp hSecond with hMem | hMem
    · exact absurd (hBefore second hMem first (List.mem_cons_self ..)) (List.lt_asymm hLess)
    · rcases List.mem_cons.mp hMem with rfl | hMem
      · exact absurd hLess (List.lt_irrefl _)
      · exact hMem
  exact ((List.singleton_sublist.mpr hLater).cons_cons first).trans (List.sublist_append_right ..)

namespace ListsInOrder

variable {α β : Type}

/-- A value at the front has its place before all others. The others must leave that place free. -/
theorem cons {first : α} {values : List α} {value? : List Nat → Option α}
    (h : ListsInOrder values value?) (hFirst : value? [] = none) :
    ListsInOrder (first :: values) fun
      | [] => some first
      | i :: place => value? (i :: place) := by
  obtain ⟨entries, rfl, hSorted, hMem⟩ := h
  have hNil (value : α) : ([], value) ∉ entries := by simp [hMem, hFirst]
  refine ⟨([], first) :: entries, rfl, List.pairwise_cons.mpr ⟨?_, hSorted⟩, ?_⟩
  · rintro ⟨_ | ⟨i, place⟩, value⟩ hEntry
    · exact absurd hEntry (hNil value)
    · exact List.nil_lt_cons i place
  · rintro (_ | ⟨i, place⟩) value
    · simp [hNil, eq_comm]
    · simp [hMem]

/-- Lists one behind the other, each with places behind the number of its list. So the places of two
lists never meet. -/
theorem flatMap {xs : List α} {values : α → List β} {value? : α → List Nat → Option β}
    (h : ∀ x ∈ xs, ListsInOrder (values x) (value? x)) :
    ListsInOrder (xs.flatMap values) fun
      | [] => none
      | i :: place => xs[i]?.bind fun x => value? x place := by
  choose! entries hValues hSorted hMem using h
  refine ⟨xs.zipIdx.flatMap fun x => (entries x.1).map fun e => (x.2 :: e.1, e.2), ?_, ?_, ?_⟩
  · conv_rhs => rw [← List.zipIdx_map_fst 0 xs, List.flatMap_map]
    rw [List.map_flatMap]
    refine List.flatMap_congr fun x hx => ?_
    rw [List.map_map, ← hValues x.1 (List.fst_mem_of_mem_zipIdx hx)]
    rfl
  · rw [List.pairwise_flatMap]
    constructor
    · intro x hx
      rw [List.pairwise_map]
      exact (hSorted x.1 (List.fst_mem_of_mem_zipIdx hx)).imp fun h =>
        List.cons_lt_cons_iff.mpr (Or.inr ⟨rfl, h⟩)
    · have hNumbers : (xs.zipIdx.map Prod.snd).Pairwise (· < ·) := by
        rw [List.zipIdx_map_snd]
        exact List.pairwise_lt_range'
      rw [List.pairwise_map] at hNumbers
      refine hNumbers.imp fun {x y} hLess => ?_
      simp only [List.mem_map]
      rintro _ ⟨e, _, rfl⟩ _ ⟨e', _, rfl⟩
      exact List.cons_lt_cons_iff.mpr (Or.inl hLess)
  · rintro (_ | ⟨i, place⟩) value
    · simp
    · simp only [List.mem_flatMap, List.mem_map, Prod.mk.injEq, Prod.exists,
        List.mk_mem_zipIdx_iff_getElem?, List.cons.injEq, Option.bind_eq_some_iff]
      constructor
      · rintro ⟨x, _, hx, _, _, hEntry, ⟨rfl, rfl⟩, rfl⟩
        exact ⟨x, hx, (hMem x (List.mem_of_getElem? hx) _ _).mp hEntry⟩
      · rintro ⟨x, hx, hValue⟩
        exact ⟨x, i, hx, place, value, (hMem x (List.mem_of_getElem? hx) _ _).mpr hValue,
          ⟨rfl, rfl⟩, rfl⟩

/-- What is listed for the elements of a message in turn is listed for its places. No place of a
message is empty. -/
theorem message {message : List Element} {values : Element → List β} {f : Occurrence → β}
    (h : ∀ element ∈ message,
      ListsInOrder (values element) fun place => (element.below? place).map f) :
    ListsInOrder (message.flatMap values) fun place => (Message.at? message place).map f := by
  convert ListsInOrder.flatMap h using 2 with place
  cases place with
  | nil => simp [Message.at?]
  | cons i place =>
      simp only [Message.at?, Option.map_bind]
      rfl

/-- An element comes first, and then what is listed for its branches in turn. -/
theorem element {element : Element} {values : Branch Message → List β} {f : Occurrence → β}
    (h : ∀ branch ∈ element.options, ListsInOrder (values branch) fun place =>
      (Message.at? branch.content place).map fun o => f (o.within ⟨element, branch.selector⟩)) :
    ListsInOrder (f ⟨[], element⟩ :: element.options.flatMap values) fun place =>
      (element.below? place).map f := by
  convert (ListsInOrder.flatMap h).cons rfl using 2 with place
  cases place with
  | nil => simp [Element.below?]
  | cons j place => simp [Element.below?, Option.map_bind, Function.comp_def]

end ListsInOrder

end LocaleMessage
