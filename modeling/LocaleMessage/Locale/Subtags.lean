/-!
The parts of a locale tag that written forms depend on. Tags are taken as they are: letters keep
their case.
-/

namespace LocaleMessage.Locale

/-- Splits a text at every character of the class. -/
def splitWhere (p : Char → Bool) : List Char → List (List Char)
  | [] => [[]]
  | c :: cs =>
    if p c then [] :: splitWhere p cs
    else match splitWhere p cs with
      | [] => [[c]]
      | part :: parts => (c :: part) :: parts

/-- The parts of a tag between hyphens and underscores. -/
def subtags (tag : String) : List (List Char) :=
  splitWhere (fun c => c = '-' || c = '_') tag.toList

/-- The first part of a tag. -/
def language (tag : String) : String :=
  String.ofList ((subtags tag).headD [])

/-- The first part behind the language that has two letters. -/
def region? (tag : String) : Option String :=
  ((subtags tag).tail.find? fun part => part.length = 2 && part.all Char.isAlpha).map String.ofList

end LocaleMessage.Locale
