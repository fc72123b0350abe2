import LocaleMessage.Locale.Subtags

/-!
Locale tags as the standard for language tags defines them: a language, a script, a region,
variants and extensions. Letters may be of either case.
-/

namespace LocaleMessage.Locale

/-- What of a tag tells one language from another. The language is in small letters, the script
begins with a capital, and the region is in capitals. -/
structure LanguageTag where
  language : String
  script : Option String
  region : Option String
deriving DecidableEq, Repr

abbrev Subtag := List Char

namespace Subtag

def isLetters (least greatest : Nat) (s : Subtag) : Bool :=
  least ≤ s.length && s.length ≤ greatest && s.all Char.isAlpha

def isAlphanumeric (least greatest : Nat) (s : Subtag) : Bool :=
  least ≤ s.length && s.length ≤ greatest && s.all Char.isAlphanum

def isLanguage (s : Subtag) : Bool := isLetters 2 3 s

def isScript (s : Subtag) : Bool := isLetters 4 4 s

/-- Two letters or three digits. -/
def isRegion (s : Subtag) : Bool :=
  isLetters 2 2 s || (s.length = 3 && s.all Char.isDigit)

/-- Five to eight letters or digits, or four with a digit in front. -/
def isVariant (s : Subtag) : Bool :=
  isAlphanumeric 5 8 s || (isAlphanumeric 4 4 s && (s.headD 'a').isDigit)

/-- A letter or digit and a letter. -/
def isKey (s : Subtag) : Bool :=
  isAlphanumeric 2 2 s && (s.getD 1 '0').isAlpha

/-- A letter and a digit. -/
def isFieldKey (s : Subtag) : Bool :=
  isAlphanumeric 2 2 s && (s.headD '0').isAlpha && (s.getD 1 'a').isDigit

def isValue (s : Subtag) : Bool := isAlphanumeric 3 8 s

/-- Two to eight bytes of any kind. -/
def isOpen (s : Subtag) : Bool :=
  let size := (String.ofList s).utf8ByteSize
  2 ≤ size && size ≤ 8

def lower (s : Subtag) : Subtag := s.map Char.toLower

def upper (s : Subtag) : Subtag := s.map Char.toUpper

def title : Subtag → Subtag
  | [] => []
  | c :: cs => c.toUpper :: lower cs

end Subtag

/-- Takes the next subtag if it is of the class. -/
def takeSubtag (p : Subtag → Bool) : List Subtag → Option Subtag × List Subtag
  | s :: rest => if p s then (some s, rest) else (none, s :: rest)
  | [] => (none, [])

/-- Whether no subtag occurs twice, in letters of either case. -/
def distinct : List Subtag → Bool
  | [] => true
  | s :: rest => !(rest.map Subtag.lower).contains s.lower && distinct rest

/-- Reads a language with what belongs to it, and leaves the first subtag that does not. -/
def readLanguage : List Subtag → Option (LanguageTag × List Subtag)
  | [] => none
  | language :: rest =>
    if language.isLanguage then
      let (script, rest) := takeSubtag Subtag.isScript rest
      let (region, rest) := takeSubtag Subtag.isRegion rest
      if distinct (rest.takeWhile Subtag.isVariant) then
        some (⟨String.ofList language.lower, script.map fun s => String.ofList s.title,
          region.map fun s => String.ofList s.upper⟩, rest.dropWhile Subtag.isVariant)
      else none
    else none

/-- Reads attributes, and keys with their values. There has to be one of either. -/
def readUnicodeExtension (subtags : List Subtag) : Option (List Subtag) :=
  let keys := subtags.dropWhile Subtag.isValue
  let rest := match keys with
    | key :: _ =>
      if key.isKey then keys.dropWhile fun s => s.isKey || s.isValue else keys
    | [] => []
  if rest.length < subtags.length then some rest else none

mutual

/-- Reads keys with at least one value each. -/
def readFields : List Subtag → Option (List Subtag)
  | [] => some []
  | s :: rest => if s.isFieldKey then readFirstValue rest else some (s :: rest)

/-- Reads the first value of a key, and all fields behind it. -/
def readFirstValue : List Subtag → Option (List Subtag)
  | [] => none
  | s :: rest => if s.isValue then readMoreValues rest else none

/-- Reads further values of a key, and all fields behind them. -/
def readMoreValues : List Subtag → Option (List Subtag)
  | [] => some []
  | s :: rest =>
    if s.isValue then readMoreValues rest
    else if s.isFieldKey then readFirstValue rest
    else some (s :: rest)

end

/-- Reads a language or fields or both. -/
def readTransformExtension (subtags : List Subtag) : Option (List Subtag) := do
  let rest ← match subtags with
    | s :: _ => if s.isLanguage then (readLanguage subtags).map (·.2) else some subtags
    | [] => some subtags
  let rest ← readFields rest
  if rest.length < subtags.length then some rest else none

/-- Reads the subtags of an extension whose meaning is left open. They are told by their size
alone, but one of them has to be made of letters and digits. -/
def readOpenExtension (subtags : List Subtag) : Option (List Subtag) :=
  if (subtags.takeWhile Subtag.isOpen).any (Subtag.isAlphanumeric 2 8) then
    some (subtags.dropWhile Subtag.isOpen)
  else none

/-- Reads subtags up to the end, at least one. -/
def readPrivateExtension (subtags : List Subtag) : Option (List Subtag) :=
  if !subtags.isEmpty && subtags.all (Subtag.isAlphanumeric 1 8) then some [] else none

/-- Reads what follows the letter or digit of an extension. -/
def readExtension (kind : Char) (subtags : List Subtag) : Option (List Subtag) :=
  if kind = 'u' then readUnicodeExtension subtags
  else if kind = 't' then readTransformExtension subtags
  else if kind = 'x' then readPrivateExtension subtags
  else readOpenExtension subtags

/-- Whether the subtags are extensions, no two of one letter or digit. The bound is used up by one
for each extension. -/
def areExtensions (bound : Nat) (seen : List Char) (subtags : List Subtag) : Bool :=
  match bound, subtags with
  | _, [] => true
  | 0, _ => false
  | bound + 1, [c] :: rest =>
    let kind := c.toLower
    if kind.isAlphanum && !seen.contains kind then
      match readExtension kind rest with
      | some rest => areExtensions bound (kind :: seen) rest
      | none => false
    else false
  | _, _ => false

/-- Reads a tag whose subtags stand between hyphens or underscores. -/
def readTag? (tag : String) : Option LanguageTag := do
  let subtags := subtags tag
  let (language, rest) ← readLanguage subtags
  if areExtensions subtags.length [] rest then some language else none

def english : LanguageTag := ⟨"en", none, none⟩

/-- The language of a tag, English for what is no tag. -/
def languageTag (tag : String) : LanguageTag :=
  (readTag? tag).getD english

end LocaleMessage.Locale
