import LocaleMessage.Plural.Resolver

/-!
A bounded memory of plural rules. Rules are kept by language and type of plural, so tags that name
the same language share them, and the oldest are given up first.
-/

namespace LocaleMessage.Plural

open LocaleMessage.Locale (LanguageTag)

/-- Rules that were looked up, oldest first. -/
structure RuleCache where
  entries : List ((LanguageTag × PluralType) × Rules)
deriving DecidableEq

namespace RuleCache

def empty : RuleCache := ⟨[]⟩

/-- How many rules are kept. -/
def capacity : Nat := 32

/-- Adds an entry, in the place of the oldest if there is no room. -/
def push (cache : RuleCache) (key : LanguageTag × PluralType) (rules : Rules) : RuleCache :=
  let kept := if capacity ≤ cache.entries.length then cache.entries.tail else cache.entries
  ⟨kept ++ [(key, rules)]⟩

/-- The rules of a language, which are kept from then on. -/
def rules (tag : LanguageTag) (type : PluralType) : StateM RuleCache Rules := fun cache =>
  match cache.entries.lookup (tag, type) with
  | some rules => (rules, cache)
  | none => (rulesOf type tag, cache.push (tag, type) (rulesOf type tag))

/-- The plural category of a number in a locale. Numbers without digits need no rules. -/
def category (n : Number) (locale : String) (type : PluralType) :
    StateM RuleCache PluralCategory := do
  match Operands.ofNumber? n with
  | some x => return (← rules (Locale.languageTag locale) type).category x
  | none => return .other

end RuleCache

end LocaleMessage.Plural
