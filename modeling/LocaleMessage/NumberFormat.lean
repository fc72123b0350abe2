import LocaleMessage.NumberFormat.Currency
import LocaleMessage.NumberFormat.Duration
import LocaleMessage.NumberFormat.English
import LocaleMessage.NumberFormat.Style

/-!
Numbers written in a style and a locale. Words and ordinal endings are known in English only;
other languages get plain decimals in their place, as do styles that are no pattern.
-/

namespace LocaleMessage.NumberFormat

/-- The layout of a custom style. -/
def customLayout (text : String) : Layout :=
  (Layout.ofPattern? text.toList).getD .default

/-- A position in digits with its ending, for numbers that are integers. -/
def ordinal (locale : String) (n : Number) : List Char :=
  match n.toInteger? with
  | some i =>
    decimal .default locale (.integer i) ++ (English.ordinalSuffix i.toInt.natAbs).toList
  | none => decimal .default locale n

/-- A number written in a style and a locale. -/
def format (n : Number) (locale : String) (style : NumberStyle) : String :=
  let english := Locale.language locale = "en"
  String.ofList <| match style with
    | .default => decimal .default locale n
    | .integer => decimal .integer locale n
    | .percent => decimal .percentage locale n
    | .currency => money locale n
    | .spellout =>
      if english then (English.spelled n).toList else decimal .default locale n
    | .ordinal => if english then ordinal locale n else decimal .default locale n
    | .duration => duration n
    | .custom text => decimal (customLayout text) locale n

end LocaleMessage.NumberFormat
