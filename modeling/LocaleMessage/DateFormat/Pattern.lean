import LocaleMessage.DateFormat.Conventions
import LocaleMessage.DateFormat.Runs

/-!
Patterns: texts in which runs of a letter stand for fields of a date-time, and all else for
itself.
-/

namespace LocaleMessage.DateFormat

open Calendar (Directive Layout)

/-- The field that a run of a letter stands for. -/
def patternField? (c : Char) (width : Nat) : Option Directive :=
  if c = 'y' then some (wide (if width = 2 then .yearOfCentury else .year))
  else if c = 'M' ∨ c = 'L' then
    some (if width = 1 then narrow .month
      else if width = 2 then wide .month
      else .name (if width = 3 then .shortMonth else .longMonth))
  else if c = 'd' then some (if width = 1 then narrow .day else wide .day)
  else if c = 'E' ∨ c = 'c' then some (.name (if width ≤ 3 then .shortWeekday else .longWeekday))
  else if c = 'H' ∨ c = 'k' then some (if width = 1 then narrow .hour else wide .hour)
  else if c = 'h' ∨ c = 'K' then
    some (if width = 1 then narrow .hourOfHalfDay else wide .hourOfHalfDay)
  else if c = 'm' then some (wide .minute)
  else if c = 's' then some (wide .second)
  else if c = 'a' then some (.name .upperHalfDay)
  else none

/-- The layout of runs of characters. Every two apostrophes in a row stand for one, and one that
is left over begins or ends a quotation, in which letters stand for themselves. -/
def layoutOfRuns (quoted : Bool) : List (Char × Nat) → Layout
  | [] => []
  | (c, width) :: rest =>
    if c = '\'' then
      .text (List.replicate (width / 2) '\'') ::
        layoutOfRuns (if width % 2 = 1 then !quoted else quoted) rest
    else
      let field := if quoted || !c.isAlpha then none else patternField? c width
      field.getD (.text (List.replicate width c)) :: layoutOfRuns quoted rest

/-- The layout that a pattern stands for. -/
def patternLayout (text : List Char) : Layout :=
  layoutOfRuns false (runs text)

end LocaleMessage.DateFormat
