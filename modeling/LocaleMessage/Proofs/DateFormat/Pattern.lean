import LocaleMessage.DateFormat
import LocaleMessage.Proofs.Calendar.Directive
import LocaleMessage.Proofs.Calendar.DirectiveText
import LocaleMessage.Proofs.DateFormat.Runs
import Mathlib.Data.Nat.Init

/-! Patterns read one character after the other, apart from runs and directives. Custom styles that
are patterns write what this reading does. -/
namespace LocaleMessage.DateFormat

open Calendar (Directive Layout)

/-- The name of the month, in three letters or in full. Names are English in every locale. -/
def monthText (dt : DateTime) (short : Bool) : List Char :=
  let name := (Calendar.monthNames.getD (dt.date.month - 1) "").toList
  if short then name.take 3 else name

/-- The name of the weekday, in three letters or in full. -/
def weekdayText (dt : DateTime) (short : Bool) : List Char :=
  let name := (Calendar.weekdayNames.getD dt.date.weekday "").toList
  if short then name.take 3 else name

/-- A number for a letter that stands alone, and one in two digits where it is repeated. Larger
numbers are not cut off. -/
def numberText (width n : Nat) : List Char :=
  if width = 1 then decimalDigits n else paddedDigits 2 n

/-- What a letter stands for where it is repeated so many times, if it names a field. Other letters
stand for themselves. -/
def fieldText? (dt : DateTime) (c : Char) (width : Nat) : Option (List Char) :=
  match c with
  | 'y' =>
    some (if width = 2 then paddedDigits 2 (dt.date.year % 100).toNat else yearText dt.date.year)
  | 'M' | 'L' =>
    some (if width ≤ 2 then numberText width dt.date.month else monthText dt (width = 3))
  | 'd' => some (numberText width dt.date.day)
  | 'E' | 'c' => some (weekdayText dt (width ≤ 3))
  | 'H' | 'k' => some (numberText width dt.time.hour)
  | 'h' | 'K' =>
    some (numberText width (if dt.time.hour % 12 = 0 then 12 else dt.time.hour % 12))
  | 'm' => some (paddedDigits 2 dt.time.minute)
  | 's' => some (paddedDigits 2 dt.time.shownSecond)
  | 'a' => some (if dt.time.hour < 12 then ['A', 'M'] else ['P', 'M'])
  | _ => none

/-- What a run of one letter is written as. An empty run, as there is one between two others, is
written as nothing. -/
def runText (dt : DateTime) : List Char → List Char
  | [] => []
  | c :: cs => (fieldText? dt c (cs.length + 1)).getD (c :: cs)

/-- Reads a pattern inside or outside quotes, behind the beginning of a run of letters that may go
on. -/
def scan (dt : DateTime) (quoted : Bool) (run : List Char) : List Char → List Char
  | [] => runText dt run
  | '\'' :: '\'' :: rest => runText dt run ++ '\'' :: scan dt quoted [] rest
  | '\'' :: rest => runText dt run ++ scan dt (!quoted) [] rest
  | c :: rest =>
    if quoted || !c.isAlpha then runText dt run ++ c :: scan dt quoted [] rest
    else if run.all (· = c) then scan dt quoted (c :: run) rest
    else runText dt run ++ scan dt quoted [c] rest

variable {dt : DateTime} {quoted : Bool} {c : Char} {rest : List Char}

theorem scan_apostrophe (h : rest.head? ≠ some '\'') (run : List Char) :
    scan dt quoted run ('\'' :: rest) = runText dt run ++ scan dt (!quoted) [] rest := by
  rw [scan]
  rintro others rfl
  exact h rfl

theorem scan_character (hc : c ≠ '\'') (run : List Char) :
    scan dt quoted run (c :: rest) =
      if quoted || !c.isAlpha then runText dt run ++ c :: scan dt quoted [] rest
      else if run.all (· = c) then scan dt quoted (c :: run) rest
      else runText dt run ++ scan dt quoted [c] rest := by
  rw [scan]
  · intro others hEq
    exact absurd hEq hc
  · exact hc

/-- Every two apostrophes are one, and one that is left begins or ends a quotation. The induction
goes by two. -/
theorem scan_apostrophes (h : rest.head? ≠ some '\'') (n : Nat) :
    scan dt quoted [] (List.replicate n '\'' ++ rest) =
      List.replicate (n / 2) '\'' ++
        scan dt (if n % 2 = 1 then !quoted else quoted) [] rest := by
  induction n using Nat.twoStepInduction with
  | zero => rfl
  | one => exact scan_apostrophe h []
  | more n ih _ =>
      have hHalf : (n + 2) / 2 = n / 2 + 1 := by omega
      rw [hHalf, Nat.add_mod_right, List.replicate_succ, List.replicate_succ, List.replicate_succ,
        List.cons_append, List.cons_append, List.cons_append, scan, ih]
      rfl

/-- Characters that are copied are written as they stand, inside quotes and outside of them. -/
theorem scan_copied (hc : c ≠ '\'') (h : (quoted || !c.isAlpha) = true) (n : Nat) :
    scan dt quoted [] (List.replicate n c ++ rest) =
      List.replicate n c ++ scan dt quoted [] rest := by
  induction n with
  | zero => rfl
  | succ n ih =>
      rw [List.replicate_succ, List.cons_append, scan_character hc, if_pos h, ih]
      rfl

/-- A run of letters ends where another character follows, or where the pattern does. -/
theorem scan_run (h : rest.head? ≠ some c) (n : Nat) :
    scan dt false (List.replicate (n + 1) c) rest =
      runText dt (List.replicate (n + 1) c) ++ scan dt false [] rest := by
  cases rest with
  | nil => exact (List.append_nil _).symm
  | cons d rest =>
      by_cases hApostrophe : d = '\''
      · subst hApostrophe
        by_cases hTwo : rest.head? = some '\''
        · obtain ⟨others, rfl⟩ := List.head?_eq_some_iff.mp hTwo
          rfl
        · rw [scan_apostrophe hTwo, scan_apostrophe hTwo]
          rfl
      · have hOther : c ≠ d := fun hEq => h (congrArg some hEq.symm)
        have hNot : (List.replicate (n + 1) c).all (· = d) = false := by simp [hOther]
        rw [scan_character hApostrophe, scan_character hApostrophe, hNot]
        split
        · rfl
        · rfl

/-- Letters that are equal to those before them go on with their run. -/
theorem scan_more (hc : c.isAlpha = true) (k n : Nat) :
    scan dt false (List.replicate k c) (List.replicate n c ++ rest) =
      scan dt false (List.replicate (k + n) c) rest := by
  have hApostrophe : c ≠ '\'' := by
    rintro rfl
    contradiction
  induction n generalizing k with
  | zero => rfl
  | succ n ih =>
      rw [List.replicate_succ, List.cons_append, scan_character hApostrophe, if_neg (by simp [hc]),
        if_pos (by simp), ← List.replicate_succ, ih, Nat.succ_add_eq_add_succ]

/-- A run of letters is written as its field, or as it stands where it names none. Nothing of the
run has been read before. -/
theorem scan_letters (hc : c.isAlpha = true) (h : rest.head? ≠ some c) (n : Nat) :
    scan dt false [] (List.replicate (n + 1) c ++ rest) =
      (fieldText? dt c (n + 1)).getD (List.replicate (n + 1) c) ++ scan dt false [] rest := by
  have hText : runText dt (List.replicate (n + 1) c) =
      (fieldText? dt c (n + 1)).getD (List.replicate (n + 1) c) := by
    rw [List.replicate_succ, runText, List.length_replicate]
  calc
    _ = scan dt false (List.replicate (0 + (n + 1)) c) rest := scan_more hc 0 (n + 1)
    _ = scan dt false (List.replicate (n + 1) c) rest := by rw [Nat.zero_add]
    _ = _ := by rw [scan_run h, hText]

/-- Numbers in one or two digits are written by the directive as the reading has them, as long as
they fit in two digits. -/
theorem render_number {f : Calendar.Field} {value : Nat}
    (hField : ∀ padding, f.render padding dt = Calendar.paddedTwo padding value)
    (h : value < 100) (width : Nat) :
    Directive.render dt (if width = 1 then narrow f else wide f) = numberText width value := by
  rw [numberText]
  split
  · rw [narrow, Directive.render, hField, Calendar.paddedTwo_none h]
  · rw [wide, Directive.render, hField, Calendar.paddedTwo_zero h]

theorem render_year (width : Nat) :
    Directive.render dt (wide (if width = 2 then .yearOfCentury else .year)) =
      if width = 2 then paddedDigits 2 (dt.date.year % 100).toNat else yearText dt.date.year := by
  split
  · exact Calendar.paddedTwo_zero dt.date.yearOfCentury_lt
  · exact Calendar.paddedYear_zero dt.date.year

/-- A month has four forms by the number of its letters, and the directive is chosen alike. -/
theorem render_month {width : Nat} (h : width ≠ 0) :
    Directive.render dt
        (if width = 1 then narrow .month
          else if width = 2 then wide .month
          else .name (if width = 3 then .shortMonth else .longMonth)) =
      if width ≤ 2 then numberText width dt.date.month else monthText dt (width = 3) := by
  by_cases hOne : width = 1
  · subst hOne
    exact render_number (f := .month) (fun _ => rfl) dt.date.month_lt 1
  by_cases hTwo : width = 2
  · subst hTwo
    exact render_number (f := .month) (fun _ => rfl) dt.date.month_lt 2
  · have hNames : ¬width ≤ 2 := by omega
    rw [if_neg hNames, if_neg hOne, if_neg hTwo, monthText]
    split
    · next hShort => simp [hShort, Directive.render, Calendar.Name.render]
    · next hLong => simp [hLong, Directive.render, Calendar.Name.render]

theorem render_weekday (width : Nat) :
    Directive.render dt (.name (if width ≤ 3 then .shortWeekday else .longWeekday)) =
      weekdayText dt (width ≤ 3) := by
  rw [weekdayText]
  split
  · next hShort => simp [hShort, Directive.render, Calendar.Name.render]
  · next hLong => simp [hLong, Directive.render, Calendar.Name.render]

/-- The directive of a run writes the field that the letter names, and there is none for other
letters. -/
theorem render_patternField (c : Char) (n : Nat) :
    (patternField? c (n + 1)).map (Directive.render dt) = fieldText? dt c (n + 1) := by
  fun_cases fieldText? dt c (n + 1) with
  | case1 => exact congrArg some (render_year (n + 1))
  | case2 => exact congrArg some (render_month (Nat.succ_ne_zero n))
  | case3 => exact congrArg some (render_month (Nat.succ_ne_zero n))
  | case4 => exact congrArg some (render_number (fun _ => rfl) dt.date.day_lt (n + 1))
  | case5 => exact congrArg some (render_weekday (n + 1))
  | case6 => exact congrArg some (render_weekday (n + 1))
  | case7 => exact congrArg some (render_number (fun _ => rfl) dt.time.hour_lt (n + 1))
  | case8 => exact congrArg some (render_number (fun _ => rfl) dt.time.hour_lt (n + 1))
  | case9 =>
      exact congrArg some
        (render_number (fun _ => rfl) (Calendar.hourOfHalfDay_lt dt.time.hour) (n + 1))
  | case10 =>
      exact congrArg some
        (render_number (fun _ => rfl) (Calendar.hourOfHalfDay_lt dt.time.hour) (n + 1))
  | case11 => exact congrArg some (Calendar.paddedTwo_zero dt.time.minute_lt)
  | case12 => exact congrArg some (Calendar.paddedTwo_zero dt.time.shownSecond_lt)
  | case13 => rfl
  | case14 =>
      have hNone : patternField? c (n + 1) = none := by grind [patternField?]
      rw [hNone, Option.map_none]

/-- The directive of a run of any character but the apostrophe. The run is copied inside quotes, and
where it names no field. -/
def runDirective (quoted : Bool) (c : Char) (width : Nat) : Directive :=
  if quoted || !c.isAlpha then .text (List.replicate width c)
  else (patternField? c width).getD (.text (List.replicate width c))

theorem layoutOfRuns_cons {c : Char} (hc : c ≠ '\'') (quoted : Bool) (width : Nat)
    (rs : List (Char × Nat)) :
    layoutOfRuns quoted ((c, width) :: rs) =
      runDirective quoted c width :: layoutOfRuns quoted rs := by
  rw [layoutOfRuns, if_neg hc, runDirective]
  split
  · rfl
  · rfl

theorem render_runDirective (c : Char) (n : Nat) :
    (runDirective quoted c (n + 1)).render dt =
      if quoted || !c.isAlpha then List.replicate (n + 1) c
      else (fieldText? dt c (n + 1)).getD (List.replicate (n + 1) c) := by
  rw [runDirective, ← render_patternField]
  split
  · rfl
  · cases patternField? c (n + 1) with
    | none => rfl
    | some d => rfl

/-- Directives for runs write what is read one character after the other. The induction is on the
runs, which have to be maximal, or a run would be read as two. -/
theorem render_layoutOfRuns {rs : List (Char × Nat)} (h : Maximal rs) (quoted : Bool) :
    Layout.render (layoutOfRuns quoted rs) dt = scan dt quoted [] (expand rs) := by
  induction h generalizing quoted with
  | nil => rfl
  | @cons c n rs next _ ih =>
      rw [expand_cons]
      by_cases hApostrophe : c = '\''
      · subst hApostrophe
        rw [scan_apostrophes next, ← ih]
        rfl
      · have hCons : Layout.render (layoutOfRuns quoted ((c, n + 1) :: rs)) dt =
            (runDirective quoted c (n + 1)).render dt ++ scan dt quoted [] (expand rs) := by
          rw [layoutOfRuns_cons hApostrophe, ← ih]
          rfl
        rw [hCons, render_runDirective]
        split
        · next hCopied => exact (scan_copied hApostrophe hCopied (n + 1)).symm
        · next hLetter =>
          obtain ⟨rfl, hAlpha⟩ : quoted = false ∧ c.isAlpha = true := by simpa using hLetter
          exact (scan_letters hAlpha next n).symm

theorem readable_patternField {c : Char} {width : Nat} {d : Directive}
    (h : patternField? c width = some d) : d.Readable := by
  grind [patternField?, Directive.Readable, wide, narrow]

theorem readable_runDirective (quoted : Bool) (c : Char) (width : Nat) :
    (runDirective quoted c width).Readable := by
  rw [runDirective]
  split
  · trivial
  · cases hField : patternField? c width with
    | none => trivial
    | some d => exact readable_patternField hField

/-- No layout of a pattern asks for a fraction of a second, so each is read back from its text. -/
theorem readable_layoutOfRuns (quoted : Bool) (rs : List (Char × Nat)) :
    ∀ d ∈ layoutOfRuns quoted rs, d.Readable := by
  induction rs generalizing quoted with
  | nil => simp [layoutOfRuns]
  | cons run rs ih =>
      by_cases hApostrophe : run.1 = '\''
      · rw [layoutOfRuns, if_pos hApostrophe]
        exact List.forall_mem_cons.mpr ⟨trivial, ih _⟩
      · rw [layoutOfRuns_cons hApostrophe]
        exact List.forall_mem_cons.mpr ⟨readable_runDirective quoted run.1 run.2, ih quoted⟩

/-- The text of every pattern is a layout, and the layout writes what reading the pattern character
by character does. A custom style that is no skeleton and has no percent sign is written so in each
locale, and never in the medium style. -/
theorem format_pattern (dt : DateTime) (locale : String) (part : DatePart) (text : String)
    (hPercent : '%' ∉ text.toList) (hSkeleton : isSkeleton text.toList = false) :
    (∃ l, Layout.ofText? (Layout.toText (patternLayout text.toList)) = some l ∧
      layout (Conventions.ofLocale locale) part (.custom text) = l) ∧
    format dt locale part (.custom text) = String.ofList (scan dt false [] text.toList) := by
  have hText : customText (Conventions.ofLocale locale) text.toList =
      Layout.toText (patternLayout text.toList) := by
    simp [customText, hPercent, hSkeleton]
  have hRead := Layout.ofText?_toText (readable_layoutOfRuns false (runs text.toList))
  have hLayout : layout (Conventions.ofLocale locale) part (.custom text) =
      (patternLayout text.toList).flatMap Directive.characters := by
    rw [layout, customLayout?, hText, patternLayout, hRead, Option.getD_some]
  constructor
  · exact ⟨_, hRead, hLayout⟩
  · rw [format, hLayout, Layout.render_characters, patternLayout,
      render_layoutOfRuns (maximal_runs text.toList), expand_runs]

/-- Runs that quotes interrupt, two apostrophes inside quotes, and a letter that names no field. -/
theorem format_pattern_quotes :
    format ⟨⟨2024, 2, 29, by decide⟩, ⟨15, 4, 5, 0, by decide⟩⟩ "de" .time
        (.custom "h 'o''clock' a, d'd'd q") =
      "3 o'clock PM, 29d29 q" := by
  obtain ⟨-, hFormat⟩ := format_pattern ⟨⟨2024, 2, 29, by decide⟩, ⟨15, 4, 5, 0, by decide⟩⟩ "de"
    .time "h 'o''clock' a, d'd'd q" (by decide) (by decide)
  rw [hFormat]
  decide

end LocaleMessage.DateFormat
