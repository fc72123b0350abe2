import LocaleMessage.Text.Position
import Mathlib.Data.List.DropRight
import Mathlib.Data.List.Induction
import Mathlib.Data.String.Basic

/-! The places of a text. An offset in bytes and a line with a column are two names of one place,
and counting through the text finds both. -/
namespace LocaleMessage.Text

open String (utf8Len)

variable {text current rest : List Char} {lines : List (List Char)}

/-- Lines, each with the line feed that ends it. -/
def endLines (lines : List (List Char)) : List Char :=
  lines.flatMap (· ++ ['\n'])

@[simp] theorem endLines_nil : endLines [] = [] := rfl

@[simp] theorem endLines_cons (line : List Char) (lines : List (List Char)) :
    endLines (line :: lines) = line ++ '\n' :: endLines lines := by
  simp [endLines]

/-- A text is made of lines that are ended, and of one that is not. The last one may be empty,
behind a line feed at the end or in an empty text. -/
theorem exists_lines (text : List Char) : ∃ lines current, text = endLines lines ++ current ∧
    (∀ line ∈ lines, '\n' ∉ line) ∧ '\n' ∉ current := by
  induction text with
  | nil => exact ⟨[], [], by simp⟩
  | cons c others ih =>
      obtain ⟨lines, current, rfl, hLines, hCurrent⟩ := ih
      by_cases hc : c = '\n'
      · exact ⟨[] :: lines, current, by simp [hc], by simpa using hLines, hCurrent⟩
      · cases lines with
        | nil => exact ⟨[], c :: current, by simp, by simp, by simp [Ne.symm hc, hCurrent]⟩
        | cons line lines =>
            rw [List.forall_mem_cons] at hLines
            refine ⟨(c :: line) :: lines, current, by simp, ?_, hCurrent⟩
            rw [List.forall_mem_cons]
            exact ⟨by simp [Ne.symm hc, hLines.1], hLines.2⟩

/-- Splitting at line feeds gives back the lines that were ended, and goes on behind them. -/
theorem splitOn_endLines_append (hLines : ∀ line ∈ lines, '\n' ∉ line) (rest : List Char) :
    (endLines lines ++ rest).splitOn '\n' = lines ++ rest.splitOn '\n' := by
  induction lines with
  | nil => rfl
  | cons line lines ih =>
      rw [List.forall_mem_cons] at hLines
      rw [endLines_cons, List.append_assoc, List.cons_append,
        List.splitOn_append_cons_self_of_not_mem hLines.1, ih hLines.2, List.cons_append]

theorem splitOn_append_of_not_mem (hCurrent : '\n' ∉ current) (rest : List Char) :
    (current ++ rest).splitOn '\n' = (rest.splitOn '\n').modifyHead (current ++ ·) := by
  induction current with
  | nil =>
      obtain ⟨first, others, hSplit⟩ := List.exists_cons_of_ne_nil (List.splitOn_ne_nil '\n' rest)
      rw [List.nil_append, hSplit, List.modifyHead_cons, List.nil_append]
  | cons c others ih =>
      rw [List.mem_cons, not_or] at hCurrent
      have hc : ¬ (c == '\n') = true := by simpa only [beq_iff_eq] using Ne.symm hCurrent.1
      rw [List.cons_append, List.splitOn_cons_eq_if_modifyHead, if_neg hc, ih hCurrent.2,
        List.modifyHead_modifyHead]
      rfl

theorem not_mem_of_mem_splitOn {line : List Char} (h : line ∈ text.splitOn '\n') : '\n' ∉ line := by
  obtain ⟨lines, current, rfl, hLines, hCurrent⟩ := exists_lines text
  rw [splitOn_endLines_append hLines, List.splitOn_eq_singleton hCurrent, List.mem_append,
    List.mem_singleton] at h
  rcases h with hMem | rfl
  · exact hLines line hMem
  · exact hCurrent

/-- The lines before a line of the text, and this line, stand at its front. The line feed behind it
is left out, for the last line has none. -/
theorem prefix_of_splitOn_eq {others : List (List Char)}
    (h : text.splitOn '\n' = lines ++ current :: others) : endLines lines ++ current <+: text := by
  have hText : ['\n'].intercalate (text.splitOn '\n') = text := List.intercalate_splitOn '\n'
  rw [← hText, h]
  clear h hText
  induction lines with
  | nil =>
      cases others with
      | nil => simp
      | cons next others => simp
  | cons line lines ih =>
      have hNonempty : lines ++ current :: others ≠ [] := by simp
      rw [List.cons_append, List.intercalate_cons_of_ne_nil hNonempty, endLines_cons,
        List.append_assoc, List.append_assoc, List.cons_append, List.singleton_append]
      exact (List.prefix_append_right_inj line).mpr ((List.prefix_cons_inj _).mpr ih)

/-- Within a line only the offset and the column go on. They differ where characters have more than
one byte. -/
theorem foldl_advance_of_not_mem (hCurrent : '\n' ∉ current) (p : Position) :
    current.foldl Position.advance p =
      ⟨p.offset + utf8Len current, p.line, p.column + current.length⟩ := by
  induction current generalizing p with
  | nil => rfl
  | cons c others ih =>
      rw [List.mem_cons, not_or] at hCurrent
      have hc : c ≠ '\n' := Ne.symm hCurrent.1
      rw [List.foldl_cons, ih hCurrent.2, Position.advance, if_neg hc]
      simp only [String.utf8Len_cons, List.length_cons, Position.mk.injEq, true_and]
      omega

/-- Behind ended lines the column is the first one again, and there are so many more lines. -/
theorem foldl_advance_endLines (hLines : ∀ line ∈ lines, '\n' ∉ line) (offset line : Nat) :
    (endLines lines).foldl Position.advance ⟨offset, line, 1⟩ =
      ⟨offset + utf8Len (endLines lines), line + lines.length, 1⟩ := by
  induction lines generalizing offset line with
  | nil => rfl
  | cons first others ih =>
      rw [List.forall_mem_cons] at hLines
      rw [endLines_cons, List.foldl_append, foldl_advance_of_not_mem hLines.1, List.foldl_cons,
        Position.advance, if_pos rfl, ih hLines.2]
      simp only [String.utf8Len_append, String.utf8Len_cons, List.length_cons, Position.mk.injEq,
        and_true]
      omega

/-- Counting through a text comes to its length, the number of its lines, and the length of the line
that is not ended. This says in one equation what is counted one by one. -/
theorem after_lines (hLines : ∀ line ∈ lines, '\n' ∉ line) (hCurrent : '\n' ∉ current) :
    Position.after (endLines lines ++ current) =
      ⟨utf8Len (endLines lines ++ current), lines.length + 1, current.length + 1⟩ := by
  rw [Position.after, List.foldl_append, Position.start, foldl_advance_endLines hLines,
    foldl_advance_of_not_mem hCurrent, String.utf8Len_append]
  rw [Nat.zero_add, Nat.add_comm 1, Nat.add_comm 1]

theorem offset_after (text : List Char) : (Position.after text).offset = utf8Len text := by
  obtain ⟨lines, current, rfl, hLines, hCurrent⟩ := exists_lines text
  rw [after_lines hLines hCurrent]

/-- Where a place of a text lies when another text stands in front: only on its first line does it
have a new column. The offset moves by bytes and the line by line feeds. -/
def Position.behind (text : List Char) (p : Position) : Position where
  offset := p.offset + utf8Len text
  line := p.line + text.count '\n'
  column := if p.line = 1 then p.column + (text.rtakeWhile (· ≠ '\n')).length else p.column

theorem after_concat (text : List Char) (c : Char) :
    Position.after (text ++ [c]) = (Position.after text).advance c := by
  simp [Position.after]

theorem after_eq_behind (text : List Char) : Position.after text = Position.start.behind text := by
  induction text using List.reverseRecOn with
  | nil => rfl
  | append_singleton others c ih =>
      rw [after_concat, ih]
      by_cases hc : c = '\n'
      · simp [Position.behind, Position.start, Position.advance, hc]
        omega
      · simp [Position.behind, Position.start, Position.advance, hc]
        omega

theorem line_after_pos (text : List Char) : 0 < (Position.after text).line := by
  rw [after_eq_behind]
  exact Nat.lt_of_lt_of_le Nat.one_pos (Nat.le_add_right ..)

/-- Counting goes on behind a text as it goes from the start. Nothing but the place that has been
reached is carried over. -/
theorem after_append (text rest : List Char) :
    Position.after (text ++ rest) = (Position.after rest).behind text := by
  induction rest using List.reverseRecOn with
  | nil => rw [List.append_nil, after_eq_behind, Position.after, List.foldl_nil]
  | append_singleton others c ih =>
      have hLine := line_after_pos others
      rw [← List.append_assoc, after_concat, ih, after_concat]
      by_cases hc : c = '\n'
      · simp [Position.behind, Position.advance, hc]
        omega
      · simp only [Position.behind, Position.advance, if_neg hc, Position.mk.injEq, true_and]
        refine ⟨by omega, ?_⟩
        split <;> omega

/-- Whether a place lies in the text: there is such a line between the line feeds, it has all the
characters before the column, and the offset counts their bytes and those of all earlier lines with
the line feeds that end them. -/
def Position.IsIn (p : Position) (text : List Char) : Prop :=
  0 < p.line ∧ 0 < p.column ∧ ∃ current, (text.splitOn '\n')[p.line - 1]? = some current ∧
    p.column - 1 ≤ current.length ∧ p.offset =
      utf8Len (endLines ((text.splitOn '\n').take (p.line - 1)) ++ current.take (p.column - 1))

/-- The places of a text are those that are reached by reading from its front. One direction builds
the part that was read from the lines, and the other finds the line that it ends in. -/
theorem isIn_iff {p : Position} :
    p.IsIn text ↔ ∃ consumed, consumed <+: text ∧ Position.after consumed = p := by
  constructor
  · rintro ⟨hLine, hColumn, current, hGet, hLength, hOffset⟩
    obtain ⟨hBound, rfl⟩ := List.getElem?_eq_some_iff.mp hGet
    have hSplit : text.splitOn '\n' = (text.splitOn '\n').take (p.line - 1) ++
        (text.splitOn '\n')[p.line - 1] :: (text.splitOn '\n').drop (p.line - 1 + 1) := by
      rw [List.getElem_cons_drop, List.take_append_drop]
    have hLines : ∀ line ∈ (text.splitOn '\n').take (p.line - 1), '\n' ∉ line :=
      fun line hMem => not_mem_of_mem_splitOn (List.mem_of_mem_take hMem)
    have hCurrent : '\n' ∉ (text.splitOn '\n')[p.line - 1].take (p.column - 1) :=
      fun hMem => not_mem_of_mem_splitOn (List.mem_of_getElem? hGet) (List.mem_of_mem_take hMem)
    refine ⟨_, ((List.prefix_append_right_inj _).mpr (List.take_prefix (p.column - 1) _)).trans
      (prefix_of_splitOn_eq hSplit), ?_⟩
    rw [after_lines hLines hCurrent, ← hOffset, List.length_take_of_le hLength,
      List.length_take_of_le hBound.le, Nat.sub_add_cancel hLine, Nat.sub_add_cancel hColumn]
  · rintro ⟨consumed, ⟨rest, rfl⟩, rfl⟩
    obtain ⟨lines, current, rfl, hLines, hCurrent⟩ := exists_lines consumed
    obtain ⟨first, others, hRest⟩ := List.exists_cons_of_ne_nil (List.splitOn_ne_nil '\n' rest)
    have hSplit : (endLines lines ++ current ++ rest).splitOn '\n' =
        lines ++ (current ++ first) :: others := by
      rw [List.append_assoc, splitOn_endLines_append hLines, splitOn_append_of_not_mem hCurrent,
        hRest, List.modifyHead_cons]
    rw [Position.IsIn, after_lines hLines hCurrent, hSplit]
    exact ⟨Nat.succ_pos _, Nat.succ_pos _, current ++ first, by simp, by simp, by simp⟩

/-- Two beginnings of one text with as many bytes are one, because each character has a byte at
least. -/
theorem eq_of_utf8Len_eq {first second : List Char} (hFirst : first <+: text)
    (hSecond : second <+: text) (hLen : utf8Len first = utf8Len second) : first = second := by
  wlog hPrefix : first <+: second generalizing first second
  · exact (this hSecond hFirst hLen.symm
      ((List.prefix_or_prefix_of_prefix hFirst hSecond).resolve_left hPrefix)).symm
  obtain ⟨others, rfl⟩ := hPrefix
  have hOthers : others = [] := by simpa using hLen
  rw [hOthers, List.append_nil]

/-- In one text the offset determines the line and the column, and these determine the offset.
Places outside of the text are not covered. -/
theorem Position.IsIn.offset_eq_iff {p q : Position} (hp : p.IsIn text) (hq : q.IsIn text) :
    p.offset = q.offset ↔ p.line = q.line ∧ p.column = q.column := by
  constructor
  · intro hOffset
    obtain ⟨first, hFirst, rfl⟩ := isIn_iff.mp hp
    obtain ⟨second, hSecond, rfl⟩ := isIn_iff.mp hq
    rw [offset_after, offset_after] at hOffset
    rw [eq_of_utf8Len_eq hFirst hSecond hOffset]
    exact ⟨rfl, rfl⟩
  · rintro ⟨hLine, hColumn⟩
    obtain ⟨_, _, current, hCurrent, _, hp⟩ := hp
    obtain ⟨_, _, current', hCurrent', _, hq⟩ := hq
    rw [hLine] at hCurrent
    obtain rfl : current = current' := Option.some.inj (hCurrent.symm.trans hCurrent')
    rw [hp, hq, hLine, hColumn]

theorem isValid_utf8Len {text : String} {consumed : List Char}
    (h : text.toList = consumed ++ rest) : String.Pos.Raw.IsValid text ⟨utf8Len consumed⟩ := by
  refine String.Pos.Raw.isValid_iff_exists_take_toList.mpr ⟨consumed.length, ?_⟩
  rw [h, List.take_left, String.utf8ByteSize_ofList]

/-- A place in a text never lies inside of a character, so the text may be cut there. -/
theorem isValid_of_isIn {text : String} {p : Position} (h : p.IsIn text.toList) :
    String.Pos.Raw.IsValid text ⟨p.offset⟩ := by
  obtain ⟨consumed, ⟨rest, hText⟩, rfl⟩ := isIn_iff.mp h
  rw [offset_after]
  exact isValid_utf8Len hText.symm

/-- What follows in the text is what stands at the offset. At the end of the text there is nothing
at either. -/
theorem get?_after {text : String} {consumed : List Char} (h : text.toList = consumed ++ rest) :
    String.Pos.Raw.get? text ⟨(Position.after consumed).offset⟩ = rest.head? := by
  rw [← String.ofList_toList (s := text), h, offset_after]
  exact String.get?_of_valid consumed rest

/-- An offset that is the length of the text is that of its end, and no other one is. -/
theorem offset_after_eq_iff {text : String} {consumed : List Char}
    (h : text.toList = consumed ++ rest) :
    (Position.after consumed).offset = text.utf8ByteSize ↔ rest = [] := by
  rw [offset_after, ← String.utf8Len_toList, h, String.utf8Len_append]
  simp

end LocaleMessage.Text
