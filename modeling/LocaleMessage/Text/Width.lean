import LocaleMessage.Text.Ligature

/-!
How many columns a text takes where all letters are equally wide. The text is read from its end,
and what a character adds depends on what stands behind it: a selector may choose its form, and
emoji and letters may join into one.
-/

namespace LocaleMessage.Text

/-- What chooses the form of the character in front of it. -/
inductive Selector where
  | emoji
  | text
  /-- Asks for a quotation mark as wide as the characters of East Asia. -/
  | wideQuote
deriving DecidableEq, Repr

def Selector.ofChar? (c : Char) : Option Selector :=
  if c = '\uFE0F' then some .emoji
  else if c = '\uFE0E' then some .text
  else if c = '\uFE01' then some .wideQuote
  else none

/-- Whether the character is an emoji that is as narrow as a letter if it is shown as text. -/
def isNarrowAsText (c : Char) : Bool :=
  defaultEmoji.contains c && selectableEmoji.contains c && c ≠ '🈚' && c ≠ '🈯'

def isCurlyQuote (c : Char) : Bool :=
  c = '‘' || c = '’' || c = '“' || c = '”'

/-- What a text begins with, as far as characters in front of it may join with that. -/
inductive Tail where
  | other
  | emoji (tail : EmojiTail)
  | ligature (tail : LigatureTail)
  | vowel (tail : VowelTail)
deriving DecidableEq, Repr

namespace Tail

/-- What a text begins with that begins with this character. -/
def ofChar (c : Char) : Tail :=
  match LigatureTail.ofChar? c, VowelTail.ofChar? c, EmojiTail.ofChar? c with
  | some tail, _, _ => ligature tail
  | _, some tail, _ => vowel tail
  | _, _, some tail => emoji tail
  | _, _, _ => other

/-- The columns that a character in front adds if it joins with the tail, and the new tail. -/
def join? (tail : Tail) (c : Char) : Option (Int × Tail) :=
  match tail with
  | other => none
  | emoji tail => (tail.before? c).map fun (n, tail) => (n, emoji tail)
  | ligature tail => (tail.before? c).map fun (n, tail) => (n, (tail.map ligature).getD other)
  | vowel tail => (tail.before? c).map fun (n, tail) => (n, (tail.map vowel).getD other)

/-- The columns that a character in front adds, and the new tail. Controls and the letters of
ASCII join with nothing. -/
def before (tail : Tail) (c : Char) : Int × Tail :=
  if c ≤ '\u00A0' then (1, other)
  else (tail.join? c).getD (charWidth c, ofChar c)

/-- Whether the tail begins with a joiner to which emoji can be added. -/
def isJoined : Tail → Bool
  | emoji (.joined _) => true
  | _ => false

/-- What is left of the tail if a selector stands in front of it. Only ligatures go on across it,
and a joiner if the selector makes an emoji of the character in front. -/
def afterSelector (tail : Tail) (selector : Option Selector) : Tail :=
  match tail with
  | ligature _ => tail
  | _ => if tail.isJoined ∧ selector = some .emoji then tail else other

end Tail

/-- What stands behind a character: a selector, if there is one, and what follows. -/
structure Behind where
  selector : Option Selector
  tail : Tail
deriving DecidableEq, Repr

namespace Behind

/-- What stands behind the last character of a text. -/
def nothing : Behind := ⟨none, .other⟩

/-- The columns of a character whose form the selector behind it chooses, and the new tail. An
emoji that is joined with others has been counted for them. -/
def selected? (behind : Behind) (c : Char) : Option (Int × Tail) :=
  match behind.selector with
  | some .emoji =>
    if selectableEmoji.contains c then
      some (if behind.tail.isJoined then 0 else 2, .emoji .emoji)
    else none
  | some .text => if isNarrowAsText c then some (1, .other) else none
  | some .wideQuote => if isCurlyQuote c then some (2, .other) else none
  | none => none

/-- What stands behind if the selector is passed over, because it chooses nothing. -/
def unselected (behind : Behind) : Tail :=
  match behind.selector with
  | some _ => behind.tail.afterSelector none
  | none => behind.tail

/-- The columns that a character adds to those of what stands behind it, and what then stands
behind the next. -/
def before (behind : Behind) (c : Char) : Int × Behind :=
  match behind.selected? c, Selector.ofChar? c with
  | some (n, tail), _ => (n, ⟨none, tail⟩)
  | none, some selector =>
    (0, ⟨selector, behind.unselected.afterSelector (some selector)⟩)
  | none, none =>
    let (n, tail) := behind.unselected.before c
    (n, ⟨none, tail⟩)

end Behind

/-- The columns of a text, and what it begins with. -/
def measure (text : List Char) : Int × Behind :=
  text.foldr
    (fun c (total, behind) => let (n, behind) := behind.before c; (total + n, behind))
    (0, .nothing)

/-- The width of a text in columns. -/
def width (text : List Char) : Nat :=
  (measure text).1.toNat

end LocaleMessage.Text
