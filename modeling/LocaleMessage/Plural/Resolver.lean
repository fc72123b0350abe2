import LocaleMessage.Locale.Tag
import LocaleMessage.Plural.Table

/-!
From locale tags to plural rules and categories.
-/

namespace LocaleMessage.Plural

open LocaleMessage.Locale (LanguageTag)

/-- The languages with rules that are not usually written in Latin letters. -/
def scripts : List (String × List String) :=
  [("Arab", ["ar", "ckb", "fa", "ks", "ps", "sd", "ug", "ur"]), ("Armn", ["hy"]),
    ("Beng", ["as", "bn"]), ("Cans", ["csw"]), ("Cher", ["chr"]),
    ("Cyrl", ["be", "bg", "cv", "kk", "ky", "mk", "mn", "ru", "sr", "tg", "uk"]),
    ("Deva", ["bho", "brx", "doi", "hi", "kok", "mr", "ne"]), ("Ethi", ["am", "ti"]),
    ("Geor", ["ka"]), ("Grek", ["el"]), ("Gujr", ["gu"]), ("Guru", ["pa"]), ("Hebr", ["he"]),
    ("Knda", ["kn"]), ("Laoo", ["lo"]), ("Mlym", ["ml"]), ("Olck", ["sat"]), ("Orya", ["or"]),
    ("Sinh", ["si"]), ("Syrc", ["syr"]), ("Taml", ["ta"]), ("Telu", ["te"])]

/-- Where a language is written in another script than elsewhere. -/
def regionScripts : List ((String × String) × String) :=
  [(("az", "IQ"), "Arab"), (("az", "IR"), "Arab"), (("az", "RU"), "Cyrl"),
    (("ha", "CM"), "Arab"), (("ha", "SD"), "Arab"), (("kk", "AF"), "Arab"),
    (("kk", "CN"), "Arab"), (("kk", "IR"), "Arab"), (("kk", "MN"), "Arab"),
    (("ku", "LB"), "Arab"), (("ky", "CN"), "Arab"), (("ky", "TR"), "Latn"),
    (("mn", "CN"), "Mong"), (("ms", "CC"), "Arab"), (("pa", "PK"), "Arab"),
    (("sd", "IN"), "Deva"), (("sr", "ME"), "Latn"), (("sr", "RO"), "Latn"),
    (("sr", "TR"), "Latn"), (("tg", "PK"), "Arab"), (("ug", "KZ"), "Cyrl"),
    (("ug", "MN"), "Cyrl"), (("uz", "AF"), "Arab"), (("uz", "CN"), "Cyrl")]

/-- The script that a language is usually written in. -/
def usualScript (language : String) : String :=
  ((scripts.find? fun entry => entry.2.contains language).map (·.1)).getD "Latn"

/-- The script of a tag: the one that it names, that of its region, or the usual one. -/
def scriptOf (tag : LanguageTag) : String :=
  match tag.script with
  | some script => script
  | none =>
    match tag.region >>= fun region => regionScripts.lookup (tag.language, region) with
    | some script => script
    | none => usualScript tag.language

/-- The regions whose Portuguese counts as in Portugal. -/
def portugueseRegions : List String :=
  ["AO", "CH", "CV", "FR", "GQ", "GW", "LU", "MO", "MZ", "PT", "ST", "TL"]

/-- The rules of a language as it is spoken and written where the tag says. Hindi in Latin
letters has the rules of English, and no other language has rules in an unusual script. -/
def rulesOf (type : PluralType) (tag : LanguageTag) : Rules :=
  if tag.language = "hi" ∧ tag.script = some "Latn" then rulesOfLanguage type "en"
  else if scriptOf tag ≠ usualScript tag.language then []
  else if type = .cardinal ∧ tag.language = "pt" ∧ tag.region.any portugueseRegions.contains then
    rulesOfLanguage type "ca"
  else rulesOfLanguage type tag.language

/-- The plural category of a number in a locale. -/
def category (n : Number) (locale : String) (type : PluralType) : PluralCategory :=
  match Operands.ofNumber? n with
  | some x => (rulesOf type (Locale.languageTag locale)).category x
  | none => .other

end LocaleMessage.Plural
