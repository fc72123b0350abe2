import LocaleMessage.Text.Columns
import LocaleMessage.Text.Emoji

/-!
Letters of several scripts that join with the letters in front of them, so that both together are
no wider than one.
-/

namespace LocaleMessage.Text

/-- Arabic alef in all its forms. -/
def alefs : CodePoints :=
  [(0x622, 0x623), (0x625, 0x625), (0x627, 0x627), (0x671, 0x673), (0x675, 0x675),
   (0x773, 0x774), (0x870, 0x882)]

/-- Arabic lam in all its forms. -/
def lams : CodePoints :=
  [(0x644, 0x644), (0x6B5, 0x6B8), (0x76A, 0x76A), (0x8A6, 0x8A6), (0x8C7, 0x8C7)]

/-- Characters without columns between which and an Arabic letter nothing is joined. -/
def unjoinedZeroWidths : CodePoints :=
  [(0x605, 0x605), (0x890, 0x891), (0x8E2, 0x8E2), (0x9BE, 0x9BE), (0x9D7, 0x9D7), (0xB3E, 0xB3E),
   (0xB57, 0xB57), (0xBBE, 0xBBE), (0xBD7, 0xBD7), (0xCC0, 0xCC0), (0xCC2, 0xCC2), (0xCC7, 0xCC8),
   (0xCCA, 0xCCB), (0xCD5, 0xCD6), (0xD3E, 0xD3E), (0xD4E, 0xD4E), (0xD57, 0xD57), (0xDCF, 0xDCF),
   (0xDDF, 0xDDF), (0x1160, 0x11FF), (0x1715, 0x1715), (0x1734, 0x1734), (0x180E, 0x180E),
   (0x1B35, 0x1B35), (0x1B3B, 0x1B3B), (0x1B3D, 0x1B3D), (0x1B43, 0x1B44), (0x1BAA, 0x1BAA),
   (0x1BF2, 0x1BF3), (0x200C, 0x200D), (0x2065, 0x2069), (0x302E, 0x302F), (0x3164, 0x3164),
   (0xA8FA, 0xA8FA), (0xA953, 0xA953), (0xA9C0, 0xA9C0), (0xD7B0, 0xD7C6), (0xD7CB, 0xD7FB),
   (0xFFA0, 0xFFA0), (0xFFF0, 0xFFF8), (0x111C0, 0x111C0), (0x111C2, 0x111C3), (0x11235, 0x11235),
   (0x1133E, 0x1133E), (0x1134D, 0x1134D), (0x11357, 0x11357), (0x113B8, 0x113B8),
   (0x113C2, 0x113C2), (0x113C5, 0x113C5), (0x113C7, 0x113C9), (0x113CF, 0x113CF),
   (0x113D1, 0x113D1), (0x114B0, 0x114B0), (0x114BD, 0x114BD), (0x115AF, 0x115AF),
   (0x116B6, 0x116B6), (0x11930, 0x11930), (0x1193D, 0x1193D), (0x1193F, 0x1193F),
   (0x11941, 0x11941), (0x11A84, 0x11A89), (0x11D46, 0x11D46), (0x11F02, 0x11F02),
   (0x11F41, 0x11F41), (0x16FF0, 0x16FF1), (0x1D165, 0x1D166), (0x1D16D, 0x1D172),
   (0xE0000, 0xE0000), (0xE0002, 0xE001F), (0xE0080, 0xE00FF), (0xE01F0, 0xE0FFF)]

/-- Whether Arabic letters are joined across the character. -/
def isJoinedAcross (c : Char) : Bool :=
  charWidth c = 0 && !unjoinedZeroWidths.contains c

/-- Khmer letters that can be written below the letter in front of them. -/
def subscriptLetters : CodePoints :=
  [(0x1780, 0x1782), (0x1784, 0x1787), (0x1789, 0x178C), (0x178E, 0x1793), (0x1795, 0x1798),
   (0x179B, 0x179D), (0x17A0, 0x17A0), (0x17A2, 0x17A2), (0x17A7, 0x17A7), (0x17AB, 0x17AC),
   (0x17AF, 0x17AF)]

/-- Tifinagh consonants. -/
def tifinaghConsonants : CodePoints :=
  [(0x2D31, 0x2D65), (0x2D6F, 0x2D6F)]

/-- Characters without columns, the joiner apart, across which the letters below can be joined. -/
def ligatureFillers : CodePoints :=
  [(0x34F, 0x34F), (0x17B4, 0x17B5), (0x180B, 0x180D), (0x180F, 0x180F), (0xFE00, 0xFE0F),
   (0xE0100, 0xE01EF)]

/-- The letters with which those in front of them may be joined. -/
inductive LigatureEnd where
  /-- Arabic alef, joined by lam. -/
  | alef
  /-- Hebrew lamed, joined by alef. -/
  | lamed
  /-- A Khmer letter, put below by the sign in front of it. -/
  | subscript
  /-- Buginese ya, joined by its vowel and another. -/
  | ya
  /-- Buginese ya behind its vowel and a joiner. -/
  | vowelAndYa
  /-- A Tifinagh consonant, joined by another. -/
  | consonant
  /-- A Tifinagh consonant behind the sign that joins it. -/
  | linkedConsonant
  /-- The second half of a Lisu tone. -/
  | tone
  /-- Old Turkic i, joined by the letter for its syllable. -/
  | orkhonI
deriving DecidableEq, Repr

/-- The end of a ligature, and whether a joiner stands in front of it. -/
structure LigatureTail where
  part : LigatureEnd
  joined : Bool
deriving DecidableEq, Repr

namespace LigatureTail

/-- The ligature that the character may be the end of. -/
def ofChar? (c : Char) : Option LigatureTail :=
  if alefs.contains c then some ⟨.alef, false⟩
  else if c = '\u05DC' then some ⟨.lamed, false⟩
  else if subscriptLetters.contains c then some ⟨.subscript, false⟩
  else if c = '\u1A10' then some ⟨.ya, false⟩
  else if tifinaghConsonants.contains c then some ⟨.consonant, false⟩
  else if c = '\uA4FC' ∨ c = '\uA4FD' then some ⟨.tone, false⟩
  else if c.toNat = 0x10C03 then some ⟨.orkhonI, false⟩
  else none

/-- Whether the ligature goes on in front of the character as if that were not there. -/
def passes (tail : LigatureTail) (c : Char) : Bool :=
  match tail.part with
  | .alef => isJoinedAcross c
  | _ => ligatureFillers.contains c

/-- The columns that a character in front adds as part of the ligature, and what may still be
joined with both. -/
def join? (tail : LigatureTail) (c : Char) : Option (Int × Option LigatureTail) :=
  match tail.part, tail.joined with
  | .alef, _ => if lams.contains c then some (0, none) else none
  | .lamed, true => if c = '\u05D0' then some (0, none) else none
  | .subscript, _ => if c = '\u17D2' then some (-1, none) else none
  | .ya, true => if c = '\u1A17' then some (0, some ⟨.vowelAndYa, false⟩) else none
  | .vowelAndYa, _ => if c = '\u1A15' then some (0, none) else none
  | .consonant, joined =>
    if c = '\u2D7F' then some (1, some ⟨.linkedConsonant, false⟩)
    else if joined && tifinaghConsonants.contains c then some (0, none)
    else none
  | .linkedConsonant, _ => if tifinaghConsonants.contains c then some (-1, none) else none
  | .tone, _ => if '\uA4F8' ≤ c ∧ c ≤ '\uA4FB' then some (0, none) else none
  | .orkhonI, true => if c.toNat = 0x10C32 then some (0, none) else none
  | _, false => none

/-- The columns that a character in front adds, and what may still be joined, unless the character
has nothing to do with the ligature. -/
def before? (tail : LigatureTail) (c : Char) : Option (Int × Option LigatureTail) :=
  if c = joiner && tail.part ≠ .alef then some (0, some ⟨tail.part, true⟩)
  else if tail.passes c then some (0, some tail)
  else tail.join? c

end LigatureTail

/-- The Kirat Rai vowel signs that are parts of others in front of themselves. -/
inductive VowelTail where
  | e
  | ai
deriving DecidableEq, Repr

namespace VowelTail

/-- The vowel sign that the character is, or ends with. -/
def ofChar? (c : Char) : Option VowelTail :=
  if c.toNat = 0x16D67 then some e
  else if c.toNat = 0x16D68 then some ai
  else none

/-- The columns that a vowel sign in front adds, and what may still become one sign with both. -/
def before? : VowelTail → Char → Option (Int × Option VowelTail)
  | e, c =>
    if c.toNat = 0x16D63 ∨ c.toNat = 0x16D69 then some (0, none)
    else if c.toNat = 0x16D67 then some (0, some ai)
    else if c.toNat = 0x16D68 then some (1, some e)
    else none
  | ai, c => if c.toNat = 0x16D63 then some (0, none) else none

end VowelTail

end LocaleMessage.Text
