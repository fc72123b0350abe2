import LocaleMessage.DateFormat.Runs

/-! Runs and the texts that are made of them. -/
namespace LocaleMessage.DateFormat

/-- The text that runs make one behind the other. A run of no characters adds nothing to it. -/
def expand (rs : List (Char × Nat)) : List Char :=
  rs.flatMap fun run => List.replicate run.2 run.1

theorem expand_cons (run : Char × Nat) (rs : List (Char × Nat)) :
    expand (run :: rs) = List.replicate run.2 run.1 ++ expand rs :=
  List.flatMap_cons

/-- Runs that are not empty and cannot be longer: the text behind each goes on with another
character. -/
inductive Maximal : List (Char × Nat) → Prop where
  | nil : Maximal []
  | cons {c : Char} {n : Nat} {rs : List (Char × Nat)} (next : (expand rs).head? ≠ some c)
      (rest : Maximal rs) : Maximal ((c, n + 1) :: rs)

theorem expand_runs (text : List Char) : expand (runs text) = text := by
  induction text with
  | nil => rfl
  | cons c cs ih =>
      rw [runs]
      split
      · next d n rest hRuns =>
        rw [hRuns, expand_cons] at ih
        split
        · next hSame =>
          subst hSame
          rw [expand_cons, List.replicate_succ, List.cons_append, ih]
        · rw [expand_cons, expand_cons, ih]
          rfl
      · next hRuns =>
        rw [hRuns] at ih
        rw [expand_cons, ← ih]
        rfl

/-- A run is taken as far as its character goes on, so no two neighbours are of one character. -/
theorem maximal_runs (text : List Char) : Maximal (runs text) := by
  induction text with
  | nil => exact .nil
  | cons c cs ih =>
      rw [runs]
      split
      · next d n rest hRuns =>
        rw [hRuns] at ih
        cases ih with
        | @cons _ n _ next hRest =>
            split
            · next hSame => exact hSame ▸ .cons next hRest
            · next hOther =>
              apply Maximal.cons _ (.cons next hRest)
              rw [expand_cons, List.replicate_succ]
              intro hHead
              exact hOther (Option.some.inj hHead).symm
      · exact .cons (by simp [expand]) .nil

theorem Maximal.width_ne_zero {rs : List (Char × Nat)} (h : Maximal rs) :
    ∀ run ∈ rs, run.2 ≠ 0 := by
  induction h with
  | nil => simp
  | @cons c n rs next _ ih => exact List.forall_mem_cons.mpr ⟨Nat.succ_ne_zero n, ih⟩

/-- The first run of a text is of its first character. An empty text has neither. -/
theorem head_runs (text : List Char) : (runs text).head?.map Prod.fst = text.head? := by
  cases text with
  | nil => rfl
  | cons c cs =>
      rw [runs]
      split
      · split
        · rfl
        · rfl
      · rfl

theorem runs_cons {c : Char} {cs : List Char} (h : cs.head? ≠ some c) :
    runs (c :: cs) = (c, 1) :: runs cs := by
  rw [runs]
  split
  · next d n rest hRuns =>
    have hHead : some d = cs.head? := by rw [← head_runs, hRuns, List.head?_cons, Option.map_some]
    rw [hRuns, if_neg fun hEq => h (hHead.symm.trans (congrArg some hEq.symm))]
  · next hRuns => rw [hRuns]

/-- Characters in front of another one, or of nothing, are one run. Their number is its length, so
that it is not zero. -/
theorem runs_replicate {c : Char} {text : List Char} (h : text.head? ≠ some c) (n : Nat) :
    runs (List.replicate (n + 1) c ++ text) = (c, n + 1) :: runs text := by
  induction n with
  | zero => exact runs_cons h
  | succ n ih =>
      rw [List.replicate_succ, List.cons_append, runs, ih]
      exact if_pos rfl

/-- Characters in front of a text change no runs of characters of another sort. They may join the
first run of their own. -/
theorem filter_runs_replicate {p : Char → Bool} {c : Char} (hc : p c = false) (n : Nat)
    (text : List Char) :
    (runs (List.replicate n c ++ text)).filter (fun run => p run.1) =
      (runs text).filter fun run => p run.1 := by
  induction n with
  | zero => rfl
  | succ n ih =>
      rw [List.replicate_succ, List.cons_append, runs, ← ih]
      split
      · next d m rest hRuns =>
        rw [hRuns]
        split
        · next hSame =>
          subst hSame
          simp [hc]
        · simp [hc]
      · next hRuns => simp [hRuns, hc]

/-- Where one run at most is of a sort, it is found again in the text that the runs make. Runs of
other characters may have grown together there. -/
theorem filter_runs_expand {p : Char → Bool} {rs : List (Char × Nat)}
    (hWidth : ∀ run ∈ rs, run.2 ≠ 0) (hOnce : (rs.filter fun run => p run.1).length ≤ 1) :
    (runs (expand rs)).filter (fun run => p run.1) = rs.filter fun run => p run.1 := by
  induction rs with
  | nil => rfl
  | cons run rs ih =>
      obtain ⟨c, n⟩ := run
      obtain ⟨hNonzero, hOthers⟩ := List.forall_mem_cons.mp hWidth
      rw [expand_cons]
      cases hp : p c with
      | false =>
          rw [List.filter_cons_of_neg (by simp [hp])] at hOnce ⊢
          rw [filter_runs_replicate hp, ih hOthers hOnce]
      | true =>
          rw [List.filter_cons_of_pos (by simp [hp]), List.length_cons] at hOnce
          have hNone : (rs.filter fun run => p run.1) = [] :=
            List.eq_nil_of_length_eq_zero (by omega)
          have hRuns := ih hOthers (by omega)
          -- The text behind begins with another character, as no run there is of this sort.
          have hNext : (expand rs).head? ≠ some c := by
            rw [← head_runs]
            intro hHead
            obtain ⟨first, hRun, rfl⟩ := Option.map_eq_some_iff.mp hHead
            have hMem : first ∈ (runs (expand rs)).filter fun run => p run.1 :=
              List.mem_filter.mpr ⟨List.mem_of_mem_head? hRun, hp⟩
            rw [hRuns, hNone] at hMem
            contradiction
          obtain ⟨n, rfl⟩ := Nat.exists_eq_succ_of_ne_zero hNonzero
          rw [runs_replicate hNext, List.filter_cons_of_pos (by simp [hp]), hRuns,
            List.filter_cons_of_pos (by simp [hp])]

end LocaleMessage.DateFormat
