import LocaleMessage.Pattern.Message
import Mathlib.Data.List.Induction
import Mathlib.Data.List.Nodup

/-! Branches with repeated selectors. A branch that comes later has the say, and the place is that
of the first. -/
namespace LocaleMessage.Branch

variable {α : Type}

/-- The branches of a clause as they count: each selector stands where it was first written and
has the content that was written for it last. -/
def merge (branches : List (Branch α)) : List (Branch α) :=
  branches.foldl (fun kept branch => branch.put kept) []

/-- Putting a branch adds its selector at the end, unless it is there. Contents play no part in
it. -/
theorem map_selector_put (branch : Branch α) (branches : List (Branch α)) :
    (put branch branches).map selector = insertLast branch.selector (branches.map selector) := by
  induction branches with
  | nil => simp [put, insertLast]
  | cons first others ih =>
      by_cases hFirst : first.selector = branch.selector
      · simp [put, insertLast, hFirst]
      · rw [put, if_neg hFirst, List.map_cons, ih]
        have hFirst' : branch.selector ≠ first.selector := fun h => hFirst h.symm
        by_cases hMem : branch.selector ∈ others.map selector
        · simp [insertLast, hMem]
        · simp [insertLast, hMem, hFirst']

/-- What is there afterwards was there or is the new branch. The other way round does not hold, as
one may have been replaced. -/
theorem mem_put {branch kept : Branch α} {branches : List (Branch α)}
    (h : kept ∈ put branch branches) : kept = branch ∨ kept ∈ branches := by
  induction branches with
  | nil => simpa [put] using h
  | cons first others ih =>
      by_cases hFirst : first.selector = branch.selector
      · rw [put, if_pos hFirst] at h
        rcases List.mem_cons.mp h with h | h
        · exact Or.inl h
        · exact Or.inr (List.mem_cons_of_mem _ h)
      · rw [put, if_neg hFirst] at h
        rcases List.mem_cons.mp h with h | h
        · exact Or.inr (by simp [h])
        · exact (ih h).imp_right (List.mem_cons_of_mem _)

/-- The new branch answers for its selector, and all others answer as before. This is all that
look-ups have to know of it. -/
theorem find?_put (branch : Branch α) (branches : List (Branch α)) (name : String) :
    find? (put branch branches) name =
      if branch.selector = name then some branch.content else find? branches name := by
  induction branches with
  | nil => by_cases h : branch.selector = name <;> simp [put, find?, h]
  | cons first others ih =>
      simp only [find?] at ih ⊢
      by_cases hFirst : first.selector = branch.selector
      · by_cases h : branch.selector = name <;> simp [put, hFirst, h]
      · by_cases h : first.selector = name
        · have hName : branch.selector ≠ name := fun he => hFirst (h.trans he.symm)
          rw [put, if_neg hFirst]
          simp [h, hName]
        · simp [put, hFirst, h, ih]

/-- A new selector goes to the end. Branches that are there do not change their order for it. -/
theorem put_of_not_mem {branch : Branch α} {branches : List (Branch α)}
    (h : branch.selector ∉ branches.map selector) : put branch branches = branches ++ [branch] := by
  induction branches with
  | nil => rfl
  | cons first others ih =>
      simp only [List.map_cons, List.mem_cons, not_or] at h
      rw [put, if_neg (Ne.symm h.1), ih h.2, List.cons_append]

theorem nodup_insertLast {x : String} {xs : List String} (h : xs.Nodup) :
    (insertLast x xs).Nodup := by
  unfold insertLast
  split_ifs with hMem
  · exact h
  · exact List.nodup_append.mpr ⟨h, List.nodup_singleton x, by grind⟩

/-- Adding one after the other, unless it is there, adds what is new, each once and in the order of
first adding. -/
theorem foldl_insertLast (kept added : List String) :
    added.foldl (fun kept x => insertLast x kept) kept =
      kept ++ (added.filter (· ∉ kept)).eraseDups := by
  -- What is added is kept from then on, so this is shown for anything kept.
  induction added generalizing kept with
  | nil => simp
  | cons x others ih =>
      rw [List.foldl_cons, ih]
      by_cases hMem : x ∈ kept
      · simp [insertLast, hMem]
      · have hOthers (y : String) : decide (y ∉ kept ++ [x]) = (!y == x && decide (y ∉ kept)) := by
          by_cases h : y = x <;> simp [h]
        simp only [insertLast, hMem, if_false, List.filter_cons, not_false_eq_true, decide_true,
          if_true, List.eraseDups_cons, List.filter_filter, hOthers, List.append_assoc,
          List.singleton_append]

/-- What one step of merging keeps, all steps keep. Only the branches that are put have to
be known. -/
theorem foldl_put_invariant {motive : List (Branch α) → Prop} {branches kept : List (Branch α)}
    (hKept : motive kept)
    (hStep : ∀ branch ∈ branches, ∀ kept, motive kept → motive (put branch kept)) :
    motive (branches.foldl (fun kept branch => branch.put kept) kept) := by
  induction branches generalizing kept with
  | nil => exact hKept
  | cons first others ih =>
      exact ih (hStep first (List.mem_cons_self ..) kept hKept)
        (fun branch hMem => hStep branch (List.mem_cons_of_mem _ hMem))

theorem nodup_merge (branches : List (Branch α)) : ((merge branches).map selector).Nodup := by
  refine foldl_put_invariant (motive := fun kept => (kept.map selector).Nodup) (by simp) ?_
  intro branch _ kept hKept
  rw [map_selector_put]
  exact nodup_insertLast hKept

theorem mem_of_mem_merge {branch : Branch α} {branches : List (Branch α)}
    (h : branch ∈ merge branches) : branch ∈ branches := by
  have hAll : ∀ kept ∈ merge branches, kept ∈ branches := by
    refine foldl_put_invariant (motive := fun kept => ∀ b ∈ kept, b ∈ branches) (by simp) ?_
    intro new hNew kept hKept b hb
    rcases mem_put hb with rfl | hb
    · exact hNew
    · exact hKept b hb
  exact hAll branch h

/-- From the end, the first branch is the last to be asked, so it answers only where no later one
does. -/
theorem find?_reverse_cons (first : Branch α) (others : List (Branch α)) (name : String) :
    find? (first :: others).reverse name =
      (find? others.reverse name).or (if first.selector = name then some first.content else none) := by
  by_cases h : first.selector = name <;>
    cases hOthers : List.find? (fun b => decide (b.selector = name)) others.reverse <;>
      simp [find?, List.find?_append, h, hOthers]

/-- The content of a selector is the one that was written last, and where none was, the one that was
there before. The induction is on what is put. -/
theorem find?_foldl_put (branches kept : List (Branch α)) (name : String) :
    find? (branches.foldl (fun kept branch => branch.put kept) kept) name =
      (find? branches.reverse name).or (find? kept name) := by
  induction branches generalizing kept with
  | nil => simp [find?]
  | cons first others ih =>
      rw [List.foldl_cons, ih, find?_put, find?_reverse_cons]
      by_cases h : first.selector = name <;> cases find? others.reverse name <;> simp [h]

/-- Looking a selector up among merged branches finds what was written for it last. Where it was
never written, nothing is found. -/
theorem find?_merge (branches : List (Branch α)) (name : String) :
    find? (merge branches) name = find? branches.reverse name := by
  rw [merge, find?_foldl_put]
  cases find? branches.reverse name <;> simp [find?]

theorem find?_isSome_iff (branches : List (Branch α)) (name : String) :
    (find? branches name).isSome ↔ ∃ branch ∈ branches, branch.selector = name := by
  simp [find?]

/-- What holds of all branches holds of the one that is found. Which one that is plays no part. -/
theorem forall_find? {p : α → Prop} {branches : List (Branch α)}
    (h : ∀ branch ∈ branches, p branch.content) {selector : String} :
    ∀ content ∈ find? branches selector, p content := by
  intro content hContent
  obtain ⟨branch, hFind, rfl⟩ := Option.map_eq_some_iff.mp hContent
  exact h branch (List.mem_of_find?_eq_some hFind)

/-- What relates two uses of each branch relates the uses of the one that is found, and of another
one where none is found. -/
theorem related_find?_getD {β γ : Type*} {Related : β → γ → Prop} {f : α → β} {g : α → γ}
    {branches : List (Branch α)} {other : α}
    (h : ∀ branch ∈ branches, Related (f branch.content) (g branch.content))
    (hOther : Related (f other) (g other)) (selector : String) :
    Related (((find? branches selector).map f).getD (f other))
      (((find? branches selector).map g).getD (g other)) := by
  cases hFind : find? branches selector with
  | none => exact hOther
  | some content =>
      have hContent : ∀ content ∈ find? branches selector, Related (f content) (g content) :=
        forall_find? h
      exact hContent content hFind

theorem map_find?_congr {β : Type*} {f g : α → β} {branches : List (Branch α)}
    (h : ∀ branch ∈ branches, f branch.content = g branch.content) (selector : String) :
    (find? branches selector).map f = (find? branches selector).map g :=
  Option.map_congr (forall_find? h)

/-- Merging loses no selector and makes none up. Of several branches with one selector only one is
left. -/
theorem exists_mem_merge (branches : List (Branch α)) (name : String) :
    (∃ branch ∈ merge branches, branch.selector = name) ↔
      ∃ branch ∈ branches, branch.selector = name := by
  rw [← find?_isSome_iff, find?_merge, find?_isSome_iff]
  simp

theorem merge_eq_nil_iff {branches : List (Branch α)} : merge branches = [] ↔ branches = [] := by
  constructor
  · intro h
    cases branches with
    | nil => rfl
    | cons first others =>
        obtain ⟨kept, hMem, _⟩ :=
          (exists_mem_merge (first :: others) first.selector).mpr ⟨first, by simp, rfl⟩
        simp [h] at hMem
  · rintro rfl
    rfl

/-- Branches with different selectors are left as they are. -/
theorem merge_of_nodup {branches : List (Branch α)} (h : (branches.map selector).Nodup) :
    merge branches = branches := by
  induction branches using List.reverseRecOn with
  | nil => rfl
  | append_singleton others last ih =>
      rw [List.map_append, List.nodup_append] at h
      obtain ⟨hOthers, _, hLast⟩ := h
      have hNew : last.selector ∉ others.map selector := by
        intro hMem
        exact hLast _ hMem _ (by simp) rfl
      rw [merge, List.foldl_append, ← merge, ih hOthers]
      exact put_of_not_mem hNew

/-- Where no selector is there twice, a branch is the same from whichever end it is looked for. -/
theorem find?_reverse_of_nodup {branches : List (Branch α)} (h : (branches.map selector).Nodup)
    (name : String) : find? branches.reverse name = find? branches name := by
  rw [← find?_merge, merge_of_nodup h]

theorem find?_of_mem {branches : List (Branch α)} (h : (branches.map selector).Nodup)
    {branch : Branch α} (hMem : branch ∈ branches) :
    find? branches branch.selector = some branch.content := by
  induction branches with
  | nil => exact absurd hMem List.not_mem_nil
  | cons first others ih =>
      obtain ⟨hNew, hOthers⟩ := List.nodup_cons.mp h
      rcases List.mem_cons.mp hMem with rfl | hMem
      · simp [find?]
      · have hFirst : first.selector ≠ branch.selector := fun hSame =>
          hNew (hSame ▸ List.mem_map_of_mem hMem)
        rw [← ih hOthers hMem]
        simp [find?, hFirst]

theorem find?_map_content {β : Type} (f : α → β) (branches : List (Branch α)) (name : String) :
    find? (branches.map fun branch => ⟨branch.selector, f branch.content⟩) name =
      (find? branches name).map f := by
  simp [find?, List.find?_map, Function.comp_def]

/-- Branches may be put before they are changed or afterwards, if selectors are not changed. -/
theorem map_put {β : Type} {f : Branch α → Branch β}
    (hf : ∀ branch, (f branch).selector = branch.selector) (branch : Branch α)
    (branches : List (Branch α)) :
    (put branch branches).map f = put (f branch) (branches.map f) := by
  induction branches with
  | nil => rfl
  | cons first others ih =>
      rw [List.map_cons, put, put, hf, hf]
      split_ifs
      · rfl
      · rw [List.map_cons, ih]

/-- Merging may come before a change of the contents or afterwards, as long as the selectors are not
changed. -/
theorem map_merge {β : Type} {f : Branch α → Branch β}
    (hf : ∀ branch, (f branch).selector = branch.selector) (branches : List (Branch α)) :
    (merge branches).map f = merge (branches.map f) := by
  rw [merge, merge, List.foldl_map]
  exact (List.foldl_hom (List.map f) fun kept branch => (map_put hf branch kept).symm).symm

/-- Where branches are left out by their selectors, putting one that is left out does nothing. -/
theorem filter_put (p : String → Bool) (branch : Branch α) (branches : List (Branch α)) :
    (put branch branches).filter (fun b => p b.selector) =
      if p branch.selector then put branch (branches.filter fun b => p b.selector)
      else branches.filter fun b => p b.selector := by
  induction branches with
  | nil => rw [put, List.filter_singleton, List.filter_nil, put, Bool.cond_eq_ite]
  | cons first others ih =>
      by_cases hFirst : first.selector = branch.selector
      · rw [put, if_pos hFirst, List.filter_cons, List.filter_cons, hFirst]
        split_ifs
        · rw [put, if_pos hFirst]
        · rfl
      · rw [put, if_neg hFirst, List.filter_cons, List.filter_cons, ih]
        split_ifs
        · rw [put, if_neg hFirst]
        · rfl
        · rfl
        · rfl

/-- Merging may come before branches are left out by their selectors or afterwards. -/
theorem filter_merge (p : String → Bool) (branches : List (Branch α)) :
    (merge branches).filter (fun branch => p branch.selector) =
      merge (branches.filter fun branch => p branch.selector) := by
  rw [merge, merge, List.foldl_filter]
  exact (List.foldl_hom (List.filter fun branch : Branch α => p branch.selector)
    fun kept branch => (filter_put p branch kept).symm).symm

/-- Each selector stands where it was written first. Together with what it answers for, this
determines merged branches. -/
theorem map_selector_merge (branches : List (Branch α)) :
    (merge branches).map selector = (branches.map selector).eraseDups := by
  have hKept := foldl_insertLast [] (branches.map selector)
  simp only [List.foldl_map, List.nil_append, List.not_mem_nil, not_false_eq_true, decide_true,
    List.filter_true] at hKept
  rw [merge, ← hKept]
  exact (List.foldl_hom (List.map selector)
    fun kept branch => (map_selector_put branch kept).symm).symm

theorem merge_merge (branches : List (Branch α)) : merge (merge branches) = merge branches :=
  merge_of_nodup (nodup_merge branches)

end LocaleMessage.Branch
