import LocaleMessage.DateFormat
import LocaleMessage.NumberFormat
import LocaleMessage.Plural.Resolver

/-!
What a message leaves to others: plural categories, and the writing of numbers and dates.
-/

namespace LocaleMessage

/-- The collaborators of a message. Categories may be looked up in a monad, so that rules can be
kept from one look-up to the next. -/
structure Formatters (m : Type → Type) where
  category : Number → String → PluralType → m PluralCategory
  number : Number → String → NumberStyle → String
  dateTime : DateTime → String → DatePart → DateStyle → String

/-- The collaborators that a message has unless others are given. -/
def Formatters.standard {m : Type → Type} [Monad m] : Formatters m where
  category n locale type := pure (Plural.category n locale type)
  number := NumberFormat.format
  dateTime := DateFormat.format

end LocaleMessage
