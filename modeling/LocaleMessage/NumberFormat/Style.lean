/-!
The styles in which a number can be written.
-/

namespace LocaleMessage

inductive NumberStyle where
  | default
  | integer
  | percent
  | currency
  | spellout
  | ordinal
  | duration
  /-- Any other style, by its text. -/
  | custom (text : String)
deriving DecidableEq, Repr

/-- The style that a text names. -/
def NumberStyle.ofText : Option String → NumberStyle
  | none => default
  | some text =>
    if text = "integer" then integer
    else if text = "percent" then percent
    else if text = "currency" then currency
    else if text = "spellout" then spellout
    else if text = "ordinal" then ordinal
    else if text = "duration" then duration
    else custom text

end LocaleMessage
