import LocaleMessage.Proofs.Compiled.Arguments

/-! Clauses in which selectors are repeated. Reading a pattern merges the branches of a clause, and
compiling a clause merges them once more, with the branch for the other cases apart; so it makes no
difference whether they have been merged before. -/
namespace LocaleMessage.Operation

/-- Branches may be compiled before they are merged or afterwards. Compiling goes by the content of
each branch and leaves its selector. -/
theorem ofOptions_merge (pound : PoundTarget) (options : List (Branch Message)) :
    ofOptions pound (Branch.merge options) = Branch.merge (ofOptions pound options) := by
  rw [ofOptions_eq_map, ofOptions_eq_map]
  refine Branch.map_merge ?_ options
  exact fun _ => rfl

theorem withoutOther_merge (branches : List (Branch Operation)) :
    withoutOther (Branch.merge branches) = withoutOther branches := by
  change Branch.merge ((Branch.merge branches).filter _) = Branch.merge (branches.filter _)
  rw [Branch.filter_merge fun selector => selector ≠ "other", Branch.merge_merge]

/-- The last branch for the other cases is the one that merging keeps. -/
theorem lastOther_merge (branches : List (Branch Operation)) :
    lastOther (Branch.merge branches) = lastOther branches := by
  rw [lastOther, lastOther, Branch.find?_reverse_of_nodup (Branch.nodup_merge branches),
    Branch.find?_merge]

/-- Merging leaves each selector where it was written first, with what was written for it last. The
options of a clause, in their order, and its branch for the other cases come out the same whether
the branches are merged before they are compiled or are compiled as they are written. -/
theorem ofOptions_merged_alike (pound : PoundTarget) (options : List (Branch Message)) :
    ((Branch.merge options).map Branch.selector = (options.map Branch.selector).eraseDups ∧
      ∀ selector, Branch.find? (Branch.merge options) selector =
        Branch.find? options.reverse selector) ∧
    withoutOther (ofOptions pound (Branch.merge options)) = withoutOther (ofOptions pound options) ∧
    lastOther (ofOptions pound (Branch.merge options)) = lastOther (ofOptions pound options) := by
  rw [ofOptions_merge]
  exact ⟨⟨Branch.map_selector_merge options, Branch.find?_merge options⟩,
    withoutOther_merge _, lastOther_merge _⟩

end LocaleMessage.Operation
