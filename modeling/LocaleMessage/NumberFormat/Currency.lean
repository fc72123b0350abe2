import LocaleMessage.NumberFormat.Decimal

/-!
Amounts of money, in the currency of a locale.
-/

namespace LocaleMessage.NumberFormat

inductive Currency where
  | aud
  | brl
  | cad
  | chf
  | cny
  | eur
  | gbp
  | inr
  | jpy
  | krw
  | mxn
  | pln
  | rub
  | usd
deriving DecidableEq, Repr

namespace Currency

/-- The currency of a region, as far as it is known. -/
def ofRegion? (region : String) : Option Currency :=
  [("US", usd), ("GB", gbp), ("JP", jpy), ("CN", cny), ("KR", krw), ("IN", inr), ("RU", rub),
    ("BR", brl), ("CH", chf), ("CA", cad), ("AU", aud), ("MX", mxn), ("PL", pln)].lookup region

/-- The currency of the country that a language is first thought of with. -/
def ofLanguage (language : String) : Currency :=
  if language ∈ ["de", "fr", "es", "it", "nl", "pt", "fi", "el", "sk"] then eur
  else if language = "ja" then jpy
  else if language = "zh" then cny
  else if language = "ko" then krw
  else if language = "ru" then rub
  else if language = "pl" then pln
  else usd

/-- The currency of a locale: that of its region, or else that of its language. -/
def ofLocale (locale : String) : Currency :=
  match Locale.region? locale >>= ofRegion? with
  | some currency => currency
  | none => ofLanguage (Locale.language locale)

def symbol : Currency → String
  | aud => "A$"
  | brl => "R$"
  | cad => "CA$"
  | chf => "CHF"
  | cny => "¥"
  | eur => "€"
  | gbp => "£"
  | inr => "₹"
  | jpy => "¥"
  | krw => "₩"
  | mxn => "MX$"
  | pln => "zł"
  | rub => "₽"
  | usd => "$"

/-- How many digits an amount has behind the decimal separator. -/
def digits : Currency → Nat
  | jpy | krw => 0
  | _ => 2

end Currency

/-- Languages that write the symbol behind the amount. -/
def symbolLastLanguages : List String :=
  ["de", "fr", "es", "it", "pt", "nl", "da", "sv", "no", "fi", "pl", "cs", "sk", "hu", "ro",
    "bg", "el", "ru", "uk", "vi"]

/-- An amount of money. The sign stands before a leading symbol, and a space that does not
break stands before a trailing one. -/
def money (locale : String) (n : Number) : List Char :=
  let currency := Currency.ofLocale locale
  let (sign, amount) := match decimal (Layout.fixed currency.digits) locale n with
    | '-' :: amount => (['-'], amount)
    | amount => ([], amount)
  if Locale.language locale ∈ symbolLastLanguages then
    sign ++ amount ++ '\u00a0' :: currency.symbol.toList
  else sign ++ currency.symbol.toList ++ amount

end LocaleMessage.NumberFormat
