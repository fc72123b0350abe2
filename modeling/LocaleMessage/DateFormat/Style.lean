/-!
The styles in which dates and times can be written.
-/

namespace LocaleMessage

/-- Which half of a date-time is written. -/
inductive DatePart where
  | date
  | time
deriving DecidableEq, Repr

inductive DateStyle where
  | short
  | medium
  | long
  | full
  /-- Any other style, by its text. -/
  | custom (text : String)
deriving DecidableEq, Repr

/-- The style that a text names. -/
def DateStyle.ofText : Option String → DateStyle
  | none => medium
  | some text =>
    if text = "medium" then medium
    else if text = "short" then short
    else if text = "long" then long
    else if text = "full" then full
    else custom text

end LocaleMessage
