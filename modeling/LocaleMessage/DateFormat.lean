import LocaleMessage.Calendar.DirectiveText
import LocaleMessage.DateFormat.Pattern
import LocaleMessage.DateFormat.Skeleton

/-!
Dates and times written in a style and a locale. Names of months and weekdays are English
everywhere.
-/

namespace LocaleMessage.DateFormat

open Calendar (Layout)

/-- The directives of a custom style, as text: a text with a percent sign is one already, and all
others are skeletons or patterns. -/
def customText (conventions : Conventions) (text : List Char) : List Char :=
  if text.contains '%' then text
  else if isSkeleton text then Layout.toText ((Skeleton.ofText conventions text).layout conventions)
  else Layout.toText (patternLayout text)

/-- The layout of a custom style. It has none if one of its directives is unknown. -/
def customLayout? (conventions : Conventions) (text : List Char) : Option Layout :=
  Layout.ofText? (customText conventions text)

/-- The layout of a style. What has none is written in the medium style. -/
def layout (conventions : Conventions) (part : DatePart) (style : DateStyle) : Layout :=
  match style with
  | .custom text =>
    (customLayout? conventions text.toList).getD (usualLayout conventions part .medium)
  | style => usualLayout conventions part style

/-- A part of a date-time written in a style and a locale. -/
def format (dt : DateTime) (locale : String) (part : DatePart) (style : DateStyle) :
    String :=
  String.ofList ((layout (Conventions.ofLocale locale) part style).render dt)

end LocaleMessage.DateFormat
