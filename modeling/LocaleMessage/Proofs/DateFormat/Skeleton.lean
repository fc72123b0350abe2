import LocaleMessage.DateFormat
import LocaleMessage.Proofs.Calendar.DirectiveText
import LocaleMessage.Proofs.DateFormat.Runs
import Mathlib.Data.List.Induction
import Mathlib.Tactic.SplitIfs

/-! Skeletons as requests for fields. The text of a skeleton has one directive for each field that
is asked for, with a separator between every two, and depends on nothing but the requests. -/
namespace LocaleMessage.DateFormat

open Calendar (Directive Layout)

/-- A field that skeletons ask for. The half of the day is none: it comes with the hour where it is
needed. -/
inductive Asked where
  | year
  | month
  | day
  | weekday
  | hour
  | minute
  | second
deriving DecidableEq, Repr

def Asked.all : List Asked := [year, month, day, weekday, hour, minute, second]

/-- The field that a letter asks for, with some letters for the same field. Letters that ask for
none make no skeleton. -/
def asked? (c : Char) : Option Asked :=
  [('y', .year), ('M', .month), ('L', .month), ('d', .day), ('E', .weekday), ('c', .weekday),
    ('h', .hour), ('K', .hour), ('H', .hour), ('k', .hour), ('j', .hour), ('m', .minute),
    ('s', .second)].lookup c

/-- Whether a letter for the hour means the clock of twelve hours. The letter `j` leaves this to the
conventions of the locale. -/
def meansTwelveHours (conventions : Conventions) (c : Char) : Bool :=
  match c with
  | 'h' | 'K' => true
  | 'j' => conventions.twelveHour
  | _ => false

/-- The directive that a run of letters for a field asks for. For hours it depends on the letter and
the conventions, and for all others at most on how many letters there are. -/
def specifier (conventions : Conventions) (run : Char × Nat) : Asked → Directive
  | .year =>
    let short : Bool := run.2 = 2
    wide (if short then .yearOfCentury else .year)
  | .month =>
    if run.2 = 1 then narrow .month
    else if run.2 = 2 then wide .month
    else if run.2 = 3 then .name .shortMonth
    else .name .longMonth
  | .day => narrow .day
  | .weekday =>
    let long : Bool := 4 ≤ run.2
    .name (if long then .longWeekday else .shortWeekday)
  | .hour =>
    if meansTwelveHours conventions run.1 then narrow .hourOfHalfDay else wide .hour
  | .minute => wide .minute
  | .second => wide .second

/-- The last run of letters for a field. Earlier ones are written over. -/
def lastRun (k : Asked) (rs : List (Char × Nat)) : Option (Char × Nat) :=
  (rs.filter fun run => asked? run.1 = some k).getLast?

/-- What a skeleton asks for in a field, if it asks for the field. Where it does so several times,
the last run decides. -/
def request (conventions : Conventions) (text : List Char) (k : Asked) : Option Directive :=
  (lastRun k (runs text)).map fun run => specifier conventions run k

/-- The half of the day, which belongs to an hour on the clock of twelve hours. -/
def halfDay (hour : Option Directive) : Layout :=
  if hour = some (narrow .hourOfHalfDay) then [.name .upperHalfDay] else []

/-- All that a skeleton asks for. The order is that of the fields here and says nothing about the
text. -/
def requested (conventions : Conventions) (text : List Char) : Layout :=
  Asked.all.flatMap (fun k => (request conventions text k).toList) ++
    halfDay (request conventions text .hour)

namespace Skeleton

/-- What a skeleton that was read asks for in a field. Minutes and seconds have one form only. -/
def field (s : Skeleton) : Asked → Option Directive
  | .year => s.yearField
  | .month => s.monthField
  | .day => s.dayField
  | .weekday => s.weekdayField
  | .hour => s.hourField
  | .minute => if s.minute then some (wide .minute) else none
  | .second => if s.second then some (wide .second) else none

/-- A run decides the form of the field that its letter asks for, and of no other field. -/
theorem field_add (conventions : Conventions) (s : Skeleton) (run : Char × Nat) (k : Asked) :
    (s.add conventions run).field k =
      if asked? run.1 = some k then some (specifier conventions run k) else s.field k := by
  fun_cases add conventions s run with
  | case1 => cases k <;> rfl
  | case2 _ _ _ hMonth => rcases hMonth with rfl | rfl <;> cases k <;> rfl
  | case3 => cases k <;> rfl
  | case4 _ _ _ _ _ hWeekday => rcases hWeekday with rfl | rfl <;> cases k <;> rfl
  | case5 _ _ _ _ _ _ hHour => rcases hHour with rfl | rfl <;> cases k <;> rfl
  | case6 _ _ _ _ _ _ _ hHour => rcases hHour with rfl | rfl <;> cases k <;> rfl
  | case7 => cases k <;> rfl
  | case8 => cases k <;> rfl
  | case9 => cases k <;> rfl
  | case10 c width =>
      have hNone : asked? c = none := by simp_all [asked?]
      rw [hNone, if_neg (by simp)]

theorem field_empty (k : Asked) : empty.field k = none := by
  cases k <;> rfl

/-- Each field has the form that the last run for it decides, by induction on the runs from the
end. -/
theorem field_foldl (conventions : Conventions) (rs : List (Char × Nat)) (k : Asked) :
    (rs.foldl (add conventions) empty).field k =
      (lastRun k rs).map fun run => specifier conventions run k := by
  induction rs using List.reverseRecOn with
  | nil => exact field_empty k
  | append_singleton rs run ih =>
      rw [List.foldl_append, List.foldl_cons, List.foldl_nil, field_add, ih, lastRun, lastRun,
        List.filter_append, List.filter_cons, List.filter_nil]
      by_cases hAsked : asked? run.1 = some k
      · simp [hAsked]
      · simp [hAsked]

theorem field_ofText (conventions : Conventions) (text : List Char) (k : Asked) :
    (ofText conventions text).field k = request conventions text k :=
  field_foldl conventions (runs text) k

end Skeleton

/-- Whether a directive writes a field. Text that is copied is none, so separators are not
counted. -/
def isSpecifier : Directive → Bool
  | .field _ _ => true
  | .name _ => true
  | _ => false

/-- The directives that write fields. -/
def specifiers (l : Layout) : Layout :=
  l.filter isSpecifier

/-- The texts between two fields. Which one stands where is not said here; it depends on the
fields. -/
def separators : List String := [" ", ", ", "/", ":"]

/-- Directives that write fields, with one separator between every two. -/
inductive Separated : Layout → Prop where
  | specifier {d : Directive} (h : isSpecifier d = true) : Separated [d]
  | cons {d : Directive} {separator : String} {l : Layout} (h : isSpecifier d = true)
      (hSeparator : separator ∈ separators) (rest : Separated l) :
      Separated (d :: copied separator :: l)

theorem Separated.append {l l' : Layout} {separator : String} (h : Separated l)
    (hSeparator : separator ∈ separators) (h' : Separated l') :
    Separated (l ++ copied separator :: l') := by
  induction h with
  | specifier hd => exact .cons hd hSeparator h'
  | cons hd hBetween _ ih => exact .cons hd hBetween ih

theorem Separated.readable {l : Layout} (h : Separated l) : ∀ d ∈ l, d.Readable := by
  have hReadable {d : Directive} (hd : isSpecifier d = true) : d.Readable := by
    cases d with
    | field f padding => trivial
    | name n => trivial
    | _ => contradiction
  induction h with
  | specifier hd => exact List.forall_mem_singleton.mpr (hReadable hd)
  | cons hd _ _ ih =>
      exact List.forall_mem_cons.mpr ⟨hReadable hd, List.forall_mem_cons.mpr ⟨trivial, ih⟩⟩

open Skeleton (joined)

/-- A layout in front of others is joined to what they come to, if it comes to anything. -/
theorem joined_cons (separator : String) (l : Layout) (layouts : List Layout) :
    joined separator (l :: layouts) =
      if l = [] then joined separator layouts
      else if joined separator layouts = [] then l
      else l ++ copied separator :: joined separator layouts := by
  by_cases hEmpty : l = []
  · simp [joined, hEmpty]
  · rw [if_neg hEmpty, joined, joined, List.filter_cons_of_pos (by simpa using hEmpty)]
    cases hOthers : layouts.filter (!·.isEmpty) with
    | nil => simp
    | cons m ms =>
        have hNonempty : m ≠ [] := by
          have hMem : m ∈ layouts.filter (!·.isEmpty) := by simp [hOthers]
          simpa using (List.mem_filter.mp hMem).2
        rw [List.intersperse_cons_cons, if_neg (by cases ms <;> simp [hNonempty])]
        rfl

theorem specifiers_append (l l' : Layout) :
    specifiers (l ++ l') = specifiers l ++ specifiers l' :=
  List.filter_append l l'

/-- Joining neither adds nor drops a directive that writes a field, and separators write none. -/
theorem specifiers_joined (separator : String) (layouts : List Layout) :
    specifiers (joined separator layouts) = layouts.flatMap specifiers := by
  induction layouts with
  | nil => rfl
  | cons l layouts ih =>
      rw [joined_cons, List.flatMap_cons, ← ih]
      split
      · next hEmpty =>
        rw [hEmpty]
        rfl
      · split
        · next hOthers =>
          rw [hOthers]
          exact (List.append_nil _).symm
        · exact specifiers_append l _

/-- Nothing at all, or fields with separators between them. There is none at either end. -/
def Arranged (l : Layout) : Prop :=
  l = [] ∨ Separated l

theorem Arranged.readable {l : Layout} (h : Arranged l) : ∀ d ∈ l, d.Readable := by
  rcases h with rfl | hSeparated
  · simp
  · exact hSeparated.readable

/-- What is joined with a separator has separators between its fields and nowhere else. -/
theorem arranged_joined {separator : String} (hSeparator : separator ∈ separators)
    {layouts : List Layout} (h : ∀ l ∈ layouts, Arranged l) :
    Arranged (joined separator layouts) := by
  induction layouts with
  | nil => exact .inl rfl
  | cons l layouts ih =>
      obtain ⟨hFirst, hOthers⟩ := List.forall_mem_cons.mp h
      have hJoined := ih hOthers
      rw [joined_cons]
      split
      · exact hJoined
      · next hNonempty =>
        have hSeparated := hFirst.resolve_left hNonempty
        split
        · exact .inr hSeparated
        · next hOther => exact .inr (hSeparated.append hSeparator (hJoined.resolve_left hOther))

namespace Skeleton

variable (conventions : Conventions) (s : Skeleton)

/-- A run of letters is not empty, so that the width of a month is never zero. A width of zero would
name a form that no run asks for. -/
theorem monthWidth_add {run : Char × Nat} (hRun : run.2 ≠ 0) (h : s.monthWidth ≠ some 0) :
    (s.add conventions run).monthWidth ≠ some 0 := by
  fun_cases add conventions s run with
  | case2 c width => exact fun hEq => hRun (Option.some.inj hEq)
  | _ => exact h

theorem monthWidth_foldl {rs : List (Char × Nat)} (hRuns : ∀ run ∈ rs, run.2 ≠ 0)
    (h : s.monthWidth ≠ some 0) : (rs.foldl (add conventions) s).monthWidth ≠ some 0 := by
  induction rs generalizing s with
  | nil => exact h
  | cons run rs ih =>
      obtain ⟨hRun, hOthers⟩ := List.forall_mem_cons.mp hRuns
      exact ih _ hOthers (monthWidth_add conventions s hRun h)

theorem monthWidth_ofText (text : List Char) : (ofText conventions text).monthWidth ≠ some 0 :=
  monthWidth_foldl conventions empty (maximal_runs text).width_ne_zero (by simp [empty])

/-- Whether the month is named is seen from its directive. The layout asks the width instead, which
is kept beside it. -/
theorem namesMonth_eq {s : Skeleton} (h : s.monthWidth ≠ some 0) :
    s.namesMonth = s.monthField.any (· matches .name _) := by
  rw [namesMonth, monthField]
  cases hWidth : s.monthWidth with
  | none => rfl
  | some width =>
      have hNonzero : width ≠ 0 := fun hZero => h (hWidth.trans (congrArg some hZero))
      simp only [Option.any_some, Option.map_some]
      grind [narrow, wide]

theorem day_eq : s.day = s.dayField.isSome := by
  rw [dayField]
  cases s.day with
  | false => rfl
  | true => rfl

theorem timeLayout_eq :
    s.timeLayout =
      joined " " [joined ":" [(s.field .hour).toList, (s.field .minute).toList,
        (s.field .second).toList], halfDay (s.field .hour)] := by
  have hHalf : (if s.twelveHour = some true then [Directive.name .upperHalfDay] else []) =
      halfDay s.hourField := by
    rw [hourField]
    cases s.twelveHour with
    | none => rfl
    | some twelve => cases twelve <;> rfl
  have hList (asked : Bool) (d : Directive) :
      (if asked then [d] else []) = (if asked then some d else none).toList := by
    cases asked <;> rfl
  rw [timeLayout, hHalf, hList, hList]
  rfl

/-- The layout depends on the fields alone. The width of the month is kept beside its field, and by
the hypotheses it says no more. -/
theorem layout_congr {s s' : Skeleton} (hWidth : s.monthWidth ≠ some 0)
    (hWidth' : s'.monthWidth ≠ some 0) (h : ∀ k, s.field k = s'.field k) :
    s.layout conventions = s'.layout conventions := by
  have hYear : s.yearField = s'.yearField := h .year
  have hMonth : s.monthField = s'.monthField := h .month
  have hDay : s.dayField = s'.dayField := h .day
  have hWeekday : s.weekdayField = s'.weekdayField := h .weekday
  have hNames : s.namesMonth = s'.namesMonth := by
    rw [namesMonth_eq hWidth, namesMonth_eq hWidth', hMonth]
  have hTime : s.timeLayout = s'.timeLayout := by
    rw [timeLayout_eq, timeLayout_eq, h, h, h]
  simp only [layout, dateLayout, day_eq, hNames, hYear, hMonth, hDay, hWeekday, hTime]

theorem isSpecifier_field {k : Asked} {d : Directive} (h : s.field k = some d) :
    isSpecifier d = true := by
  cases k with
  | year =>
      obtain ⟨short, -, rfl⟩ := Option.map_eq_some_iff.mp h
      rfl
  | month =>
      obtain ⟨width, -, rfl⟩ := Option.map_eq_some_iff.mp h
      split_ifs <;> rfl
  | day =>
      obtain ⟨-, hSome⟩ := Option.ite_none_right_eq_some.mp h
      exact Option.some.inj hSome ▸ rfl
  | weekday =>
      obtain ⟨long, -, rfl⟩ := Option.map_eq_some_iff.mp h
      rfl
  | hour =>
      obtain ⟨twelve, -, rfl⟩ := Option.map_eq_some_iff.mp h
      cases twelve <;> rfl
  | minute =>
      obtain ⟨-, hSome⟩ := Option.ite_none_right_eq_some.mp h
      exact Option.some.inj hSome ▸ rfl
  | second =>
      obtain ⟨-, hSome⟩ := Option.ite_none_right_eq_some.mp h
      exact Option.some.inj hSome ▸ rfl

theorem specifiers_field (k : Asked) : specifiers (s.field k).toList = (s.field k).toList := by
  cases hField : s.field k with
  | none => rfl
  | some d => exact List.filter_cons_of_pos (isSpecifier_field s hField)

theorem arranged_field (k : Asked) : Arranged (s.field k).toList := by
  cases hField : s.field k with
  | none => exact .inl rfl
  | some d => exact .inr (.specifier (isSpecifier_field s hField))

theorem specifiers_halfDay (hour : Option Directive) :
    specifiers (halfDay hour) = halfDay hour := by
  rw [halfDay]
  split
  · rfl
  · rfl

theorem arranged_halfDay (hour : Option Directive) : Arranged (halfDay hour) := by
  rw [halfDay]
  split
  · exact .inr (.specifier rfl)
  · exact .inl rfl

/-- Every order of a date writes the same three fields. Those that are not asked for are left out of
all of them. -/
theorem perm_dateLayout (order : DateOrder) :
    (specifiers (s.dateLayout order)).Perm
      ((s.field .year).toList ++ (s.field .month).toList ++ (s.field .day).toList) := by
  have hYear : specifiers s.yearField.toList = (s.field .year).toList := specifiers_field s .year
  have hMonth : specifiers s.monthField.toList = (s.field .month).toList :=
    specifiers_field s .month
  have hDay : specifiers s.dayField.toList = (s.field .day).toList := specifiers_field s .day
  rw [List.perm_iff_count]
  intro d
  cases order with
  | monthDayYear =>
      simp only [dateLayout]
      split
      · simp only [specifiers_joined, List.flatMap_cons, List.flatMap_nil, hYear, hMonth, hDay,
          List.count_append, List.count_nil]
        omega
      · simp only [specifiers_joined, List.flatMap_cons, List.flatMap_nil, hYear, hMonth, hDay,
          List.count_append, List.count_nil]
        omega
  | dayMonthYear =>
      simp only [dateLayout, specifiers_joined, List.flatMap_cons, List.flatMap_nil, hYear, hMonth,
        hDay, List.count_append, List.count_nil]
      omega
  | yearMonthDay =>
      simp only [dateLayout, specifiers_joined, List.flatMap_cons, List.flatMap_nil, hYear, hMonth,
        hDay, List.count_append, List.count_nil]
      omega

/-- Whatever the order and the fields that are there, a date has its separators in between. -/
theorem arranged_dateLayout (order : DateOrder) : Arranged (s.dateLayout order) := by
  have hYear : Arranged s.yearField.toList := arranged_field s .year
  have hMonth : Arranged s.monthField.toList := arranged_field s .month
  have hDay : Arranged s.dayField.toList := arranged_field s .day
  have hComma (p : Prop) [Decidable p] : (if p then ", " else " ") ∈ separators := by
    split <;> decide
  have hSlash (p : Prop) [Decidable p] : (if p then " " else "/") ∈ separators := by
    split <;> decide
  cases order with
  | monthDayYear =>
      simp only [dateLayout]
      split
      · have hMonthDay : Arranged (joined " " [s.monthField.toList, s.dayField.toList]) :=
          arranged_joined (by decide) (by simp [hMonth, hDay])
        exact arranged_joined (hComma _) (by simp [hMonthDay, hYear])
      · exact arranged_joined (by decide) (by simp [hYear, hMonth, hDay])
  | dayMonthYear => exact arranged_joined (hSlash _) (by simp [hYear, hMonth, hDay])
  | yearMonthDay => exact arranged_joined (hSlash _) (by simp [hYear, hMonth, hDay])

theorem arranged_timeLayout : Arranged s.timeLayout := by
  have hClock : Arranged (joined ":" [(s.field .hour).toList, (s.field .minute).toList,
      (s.field .second).toList]) :=
    arranged_joined (by decide) (by simp [arranged_field])
  rw [timeLayout_eq]
  exact arranged_joined (by decide) (by simp [hClock, arranged_halfDay])

/-- Fields stand in the layout with separators between them. This is so also where only a date or
only a time is asked for. -/
theorem arranged_layout : Arranged (s.layout conventions) := by
  have hWeekday : Arranged s.weekdayField.toList := arranged_field s .weekday
  exact arranged_joined (by decide)
    (by simp [hWeekday, arranged_dateLayout, arranged_timeLayout])

theorem specifiers_timeLayout :
    specifiers s.timeLayout = (s.field .hour).toList ++ ((s.field .minute).toList ++
      ((s.field .second).toList ++ halfDay (s.field .hour))) := by
  simp only [timeLayout_eq, specifiers_joined, List.flatMap_cons, List.flatMap_nil,
    specifiers_field, specifiers_halfDay, List.append_nil, List.append_assoc]

/-- The layout has a directive for each field that is asked for, and no others. In which order they
stand depends on the locale. -/
theorem perm_layout :
    (specifiers (s.layout conventions)).Perm
      (Asked.all.flatMap (fun k => (s.field k).toList) ++ halfDay (s.field .hour)) := by
  have hWeekday : specifiers s.weekdayField.toList = (s.field .weekday).toList :=
    specifiers_field s .weekday
  have hDate := perm_dateLayout s conventions.order
  rw [List.perm_iff_count] at hDate ⊢
  intro d
  have hCount := hDate d
  simp only [layout, specifiers_joined, List.flatMap_cons, List.flatMap_nil, hWeekday,
    specifiers_timeLayout, Asked.all, List.count_append, List.count_nil] at hCount ⊢
  omega

end Skeleton

/-- Runs that do not ask for one field. Runs that ask for none are unrelated to all. -/
def Unrelated (run run' : Char × Nat) : Prop :=
  asked? run.1 = none ∨ asked? run.1 ≠ asked? run'.1

instance : DecidableRel Unrelated :=
  fun _ _ => inferInstanceAs (Decidable (_ ∨ _))

variable {text : List Char} {rs : List (Char × Nat)}

/-- At most one of unrelated runs asks for a field, so the last one is the only one. -/
theorem length_filter_le (h : rs.Pairwise Unrelated) (k : Asked) :
    (rs.filter fun run => asked? run.1 = some k).length ≤ 1 := by
  have hFiltered : (rs.filter fun run => asked? run.1 = some k).Pairwise Unrelated := h.filter _
  have hAsked : ∀ run ∈ rs.filter fun run => asked? run.1 = some k, asked? run.1 = some k :=
    fun run hMem => by simpa using (List.mem_filter.mp hMem).2
  generalize rs.filter (fun run => asked? run.1 = some k) = asking at hFiltered hAsked ⊢
  match asking with
  | [] => exact Nat.zero_le 1
  | [_] => exact Nat.le_refl 1
  | run :: run' :: others =>
      have hFirst := hAsked run (by simp)
      have hSecond := hAsked run' (by simp)
      rcases (List.pairwise_cons.mp hFiltered).1 run' (by simp) with hNone | hOther
      · rw [hFirst] at hNone
        contradiction
      · exact absurd (hFirst.trans hSecond.symm) hOther

/-- A list of at most one element has no other order. -/
theorem eq_of_perm_of_length_le {α : Type} {l l' : List α} (h : l.Perm l')
    (hLength : l'.length ≤ 1) : l = l' := by
  match l' with
  | [] => exact h.eq_nil
  | [_] => exact h.eq_singleton

/-- Unrelated runs ask for the same in every order. The reordered text may have other runs where
some of no field come together. -/
theorem request_reorder (conventions : Conventions) (hUnrelated : (runs text).Pairwise Unrelated)
    (hPerm : rs.Perm (runs text)) (k : Asked) :
    request conventions (expand rs) k = request conventions text k := by
  let asks (run : Char × Nat) : Bool := asked? run.1 = some k
  have hOnce : ((runs text).filter asks).length ≤ 1 := length_filter_le hUnrelated k
  have hFilter : rs.filter asks = (runs text).filter asks :=
    eq_of_perm_of_length_le (hPerm.filter asks) hOnce
  have hWidth : ∀ run ∈ rs, run.2 ≠ 0 :=
    fun run hMem => (maximal_runs text).width_ne_zero run (hPerm.mem_iff.mp hMem)
  have hExpand : (runs (expand rs)).filter asks = rs.filter asks :=
    filter_runs_expand (p := fun c => asked? c = some k) hWidth (hFilter ▸ hOnce)
  change ((runs (expand rs)).filter asks).getLast?.map _ = ((runs text).filter asks).getLast?.map _
  rw [hExpand, hFilter]

theorem isSkeleton_reorder (h : isSkeleton text = true) (hPerm : rs.Perm (runs text)) :
    isSkeleton (expand rs) = true := by
  have hText : (expand rs).Perm text := by
    have hExpand : (expand rs).Perm (expand (runs text)) := hPerm.flatMap_right _
    rwa [expand_runs] at hExpand
  simp only [isSkeleton, Bool.and_eq_true, Bool.not_eq_true', List.isEmpty_eq_false_iff,
    List.all_eq_true] at h ⊢
  constructor
  · intro hNil
    rw [hNil] at hText
    exact h.1 hText.nil_eq.symm
  · exact fun c hMem => h.2 c (hText.mem_iff.mp hMem)

/-- A skeleton is never taken for a pattern, and its text is that of its layout. -/
theorem customText_skeleton_eq (conventions : Conventions) (h : isSkeleton text = true) :
    customText conventions text =
      Layout.toText ((Skeleton.ofText conventions text).layout conventions) := by
  have hLetters : ∀ c ∈ text, c ∈ "GyMLdEcHhjKkmsa".toList := by
    simpa [isSkeleton] using (Bool.and_eq_true_iff.mp h).2
  have hPercent : '%' ∉ text := fun hMem => absurd (hLetters '%' hMem) (by decide)
  rw [customText, if_neg (by simpa using hPercent), if_pos h]

/-- The text of a skeleton has one directive for each field that is asked for and no others, with a
separator between every two and nowhere else. Skeletons that ask for the same have the same text,
and so has each order of runs of which no two ask for one field. -/
theorem customText_skeleton (conventions : Conventions) :
    (∀ text, isSkeleton text = true →
      ∃ l, customText conventions text = Layout.toText l ∧
        Layout.ofText? (customText conventions text) = some (l.flatMap Directive.characters) ∧
        (specifiers l).Perm (requested conventions text) ∧ Arranged l) ∧
    (∀ text text', isSkeleton text = true → isSkeleton text' = true →
      (∀ k, request conventions text k = request conventions text' k) →
      customText conventions text = customText conventions text') ∧
    (∀ text rs, isSkeleton text = true → (runs text).Pairwise Unrelated → rs.Perm (runs text) →
      customText conventions (expand rs) = customText conventions text) := by
  have hText {text : List Char} (h : isSkeleton text = true) :=
    customText_skeleton_eq conventions h
  have hSame {text text' : List Char} (h : isSkeleton text = true) (h' : isSkeleton text' = true)
      (hRequest : ∀ k, request conventions text k = request conventions text' k) :
      customText conventions text = customText conventions text' := by
    rw [hText h, hText h']
    congr 1
    apply Skeleton.layout_congr conventions (Skeleton.monthWidth_ofText conventions text)
      (Skeleton.monthWidth_ofText conventions text')
    intro k
    rw [Skeleton.field_ofText, Skeleton.field_ofText, hRequest]
  refine ⟨?_, fun _ _ => hSame, ?_⟩
  · intro text h
    have hArranged := Skeleton.arranged_layout conventions (Skeleton.ofText conventions text)
    have hPerm := Skeleton.perm_layout conventions (Skeleton.ofText conventions text)
    simp only [Skeleton.field_ofText] at hPerm
    refine ⟨_, hText h, ?_, hPerm, hArranged⟩
    rw [hText h]
    exact Layout.ofText?_toText hArranged.readable
  · intro text rs h hUnrelated hPerm
    exact hSame (isSkeleton_reorder h hPerm) h (request_reorder conventions hUnrelated hPerm)

/-- A date and a time in the usual order of the United States, whatever the order of the letters and
however the hour is asked for. -/
theorem customText_skeleton_english :
    (∃ l, "%b %-d, %Y, %-I:%M %p".toList = Layout.toText l ∧
      (specifiers l).Perm (requested ⟨.monthDayYear, true⟩ "yMMMdjm".toList) ∧ Arranged l) ∧
    customText ⟨.monthDayYear, true⟩ "yyyyLLLddHhmm".toList = "%b %-d, %Y, %-I:%M %p".toList ∧
    customText ⟨.monthDayYear, true⟩ "mjdMMMy".toList = "%b %-d, %Y, %-I:%M %p".toList := by
  obtain ⟨hFields, hSame, hReorder⟩ := customText_skeleton ⟨.monthDayYear, true⟩
  have hText : customText ⟨.monthDayYear, true⟩ "yMMMdjm".toList =
      "%b %-d, %Y, %-I:%M %p".toList := by decide
  refine ⟨?_, ?_, ?_⟩
  · obtain ⟨l, hLayout, -, hPerm, hArranged⟩ := hFields "yMMMdjm".toList (by decide)
    exact ⟨l, hText ▸ hLayout, hPerm, hArranged⟩
  · rw [← hText]
    apply hSame _ _ (by decide) (by decide)
    intro k
    cases k <;> decide
  · rw [← hText]
    exact hReorder "yMMMdjm".toList [('m', 1), ('j', 1), ('d', 1), ('M', 3), ('y', 1)] (by decide)
      (by decide) (by decide)

end LocaleMessage.DateFormat
