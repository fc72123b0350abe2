/-!
Blank characters and the trimming of text.
-/

namespace LocaleMessage.Text

/-- Whether the character is white space in the sense of the Unicode property of that name. -/
def isSpace (c : Char) : Bool :=
  let n := c.toNat
  (0x9 ≤ n && n ≤ 0xD) || n = 0x20 || n = 0x85 || n = 0xA0 || n = 0x1680 ||
    (0x2000 ≤ n && n ≤ 0x200A) || n = 0x2028 || n = 0x2029 || n = 0x202F || n = 0x205F ||
    n = 0x3000

/-- Drops the white space in front. -/
def trimLeft (text : List Char) : List Char :=
  text.dropWhile isSpace

/-- Drops the white space at both ends. -/
def trim (text : List Char) : List Char :=
  (trimLeft (trimLeft text).reverse).reverse

end LocaleMessage.Text
