/-!
Places in a text: the offset in bytes of its UTF-8 form, and the line and column counted from
one, where a column is a character.
-/

namespace LocaleMessage.Text

structure Position where
  offset : Nat
  line : Nat
  column : Nat
deriving DecidableEq, Repr

/-- Where a text begins. -/
def Position.start : Position := ⟨0, 1, 1⟩

/-- The place after one more character. Only a line feed ends a line. -/
def Position.advance (p : Position) (c : Char) : Position :=
  if c = '\n' then ⟨p.offset + c.utf8Size, p.line + 1, 1⟩
  else ⟨p.offset + c.utf8Size, p.line, p.column + 1⟩

/-- The place reached from the start by reading `text`. -/
def Position.after (text : List Char) : Position :=
  text.foldl Position.advance .start

end LocaleMessage.Text
