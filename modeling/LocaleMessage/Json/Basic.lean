import LocaleMessage.Decimal

/-!
JSON values.
-/

namespace LocaleMessage

inductive Json where
  | null
  | bool (b : Bool)
  /-- A number, by its text. -/
  | number (text : String)
  | string (text : String)
  | array (items : List Json)
  /-- The members of an object, in the order in which they stand. -/
  | object (members : List (String × Json))
deriving Repr

namespace Json

def ofNat (n : Nat) : Json :=
  number (String.ofList (decimalDigits n))

def ofStrings (texts : List String) : Json :=
  array (texts.map string)

def ofOption : Option String → Json
  | some text => string text
  | none => null

end Json

end LocaleMessage
