import LocaleMessage.Compiled.Message
import LocaleMessage.Proofs.Branch
import LocaleMessage.Proofs.Number

/-! How operations run: what reading an argument does, and which branch of a clause runs. -/
namespace LocaleMessage

variable {m : Type → Type} [Monad m]

/-- Goes on with the value of an argument, or notes that it is missing and goes on without. What is
missing is noted once, where it was first missed. -/
def withArgument {α : Type} (env : Environment m) (id : String) (found : Value → Evaluation m α)
    (missing : Evaluation m α) : Evaluation m α :=
  match env.bindings id with
  | some value => found value
  | none => do
    modify fun ids => if id ∈ ids then ids else ids ++ [id]
    missing

/-- Looking an argument up comes to nothing more than going on with its value or without. So the
list of missing arguments is touched here only. -/
theorem Environment.lookup_bind [LawfulMonad m] {α : Type} (env : Environment m) (id : String)
    (next : Option Value → Evaluation m α) :
    (env.lookup id >>= next) = withArgument env id (fun value => next (some value)) (next none) := by
  funext missing
  change (env.lookup id missing >>= fun read => next read.1 read.2) = _
  unfold withArgument
  cases hValue : env.bindings id with
  | none => simp [Environment.lookup, hValue, modify, modifyGet, MonadStateOf.modifyGet,
      StateT.modifyGet, bind, StateT.bind, insertLast]
  | some value => simp [Environment.lookup, hValue]

/-- Only values that are numbers have a category to be asked for. For others no question goes to the
collaborators. -/
theorem Environment.category_bind [LawfulMonad m] {α : Type} (env : Environment m)
    (type : PluralType) (offset : UInt32) (value : Value)
    (next : Option PluralCategory → Evaluation m α) :
    (env.category type offset value >>= next) =
      match value.number? with
      | some n => env.formatters.category (n.minus offset) env.locale type >>= fun category =>
          next (some category)
      | none => next none := by
  unfold Environment.category
  cases value.number? <;> simp

namespace Operation

/-- A single part needs no sequence, and no parts need no operation. -/
theorem evaluate_ofParts [LawfulMonad m] (env : Environment m) (parts : List Operation) :
    evaluate env (ofParts parts) = evaluateAll env parts := by
  cases parts with
  | nil => simp [ofParts, evaluate, evaluateAll]
  | cons first others =>
      cases others with
      | nil => simp [ofParts, evaluateAll]
      | cons second others => simp [ofParts, evaluate]

theorem evaluateBranch_eq (env : Environment m) (selector : String)
    (branches : List (Branch Operation)) :
    evaluateBranch env selector branches =
      (Branch.find? branches selector).map (evaluate env) := by
  induction branches with
  | nil => simp [evaluateBranch, Branch.find?]
  | cons first others ih =>
      simp only [evaluateBranch, ih, Branch.find?]
      by_cases h : first.selector = selector <;> simp [h]

/-- Among the options of a clause a selector finds what was written for it last, and the other cases
find nothing. -/
theorem find?_withoutOther (branches : List (Branch Operation)) (selector : String) :
    Branch.find? (withoutOther branches) selector =
      if selector = "other" then none else Branch.find? branches.reverse selector := by
  have hMerge : withoutOther branches = Branch.merge (branches.filter (·.selector ≠ "other")) := rfl
  rw [hMerge, Branch.find?_merge, ← List.filter_reverse, Branch.find?, List.find?_filter]
  by_cases hOther : selector = "other"
  · simp [hOther]
  · have hSame (branch : Branch Operation) :
        (branch.selector ≠ "other" ∧ branch.selector = selector) ↔ branch.selector = selector := by
      grind
    simp [Branch.find?, hOther, hSame]

theorem evaluate_lastOther (env : Environment m) (branches : List (Branch Operation)) :
    evaluate env (lastOther branches) =
      ((Branch.find? branches.reverse "other").map (evaluate env)).getD (return "") := by
  rw [lastOther]
  cases Branch.find? branches.reverse "other" <;> simp [evaluate]

/-- The branch that runs for a selector is the last one with that selector, or else the last one
for the other cases, or else an empty text. -/
theorem evaluateBranch_getD (env : Environment m) (selector : String)
    (branches : List (Branch Operation)) :
    (evaluateBranch env selector (withoutOther branches)).getD (evaluate env (lastOther branches)) =
      ((Branch.find? branches.reverse selector).map (evaluate env)).getD
        (((Branch.find? branches.reverse "other").map (evaluate env)).getD (return "")) := by
  rw [evaluateBranch_eq, find?_withoutOther, evaluate_lastOther]
  by_cases h : selector = "other"
  · subst h
    cases Branch.find? branches.reverse "other" <;> simp
  · simp [h]

/-- A selector for one value is never the one for the other cases, so it need not be excepted. -/
theorem evaluateBranch_exact (env : Environment m) (text : String)
    (branches : List (Branch Operation)) :
    evaluateBranch env ("=" ++ text) (withoutOther branches) =
      (Branch.find? branches.reverse ("=" ++ text)).map (evaluate env) := by
  have hOther : "=" ++ text ≠ "other" := by
    intro h
    have hList := congrArg String.toList h
    simp at hList
  rw [evaluateBranch_eq, find?_withoutOther, if_neg hOther]

end Operation

end LocaleMessage
