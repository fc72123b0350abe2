import LocaleMessage.DateFormat.Style
import LocaleMessage.NumberFormat.Style
import LocaleMessage.Pattern.Message
import LocaleMessage.Plural.Category

/-!
Compiled messages as trees of operations.
-/

namespace LocaleMessage

inductive Operation where
  | literal (text : String)
  | sequence (parts : List Operation)
  /-- Writes a value as it is. -/
  | simple (id : String)
  /-- Writes a number less an offset. -/
  | number (id : String) (offset : UInt32) (style : NumberStyle)
  | dateTime (id : String) (part : DatePart) (style : DateStyle)
  /-- Chooses by number. The options are all branches but the one for the other cases. -/
  | plural (id : String) (type : PluralType) (offset : UInt32) (options : List (Branch Operation))
      (other : Operation)
  /-- Chooses by text. -/
  | select (id : String) (options : List (Branch Operation)) (other : Operation)
deriving Repr

/-- The branch of a clause for a selector. -/
def Operation.branch? (operation : Operation) (selector : String) : Option Operation :=
  match operation with
  | plural _ _ _ options other | select _ options other =>
    if selector = "other" then some other else Branch.find? options selector
  | _ => none

end LocaleMessage
