import Mathlib.Data.List.TakeWhile
import LocaleMessage.Proofs.Compiled.Agreement
import LocaleMessage.Session

/-! Two readings of one locale tag. Plural rules go by the tag as it is read in full, and written
forms by the language and the region that are split off it. Where the letters are of the usual
cases and no extension stands in for a region, the two readings tell the same, so that messages
come out alike for all tags of one language, script and region. -/
namespace LocaleMessage

namespace Locale

namespace Subtag

theorem isLetters_two (s : Subtag) :
    s.isLetters 2 2 = (s.length = 2 && s.all Char.isAlpha) := by
  simp only [isLetters, Nat.le_antisymm_iff, Bool.decide_and]
  rw [Bool.and_comm (decide (2 ≤ s.length))]

/-- Subtags of four characters and more are never taken for a region, so scripts and variants are
passed over. -/
theorem isLetters_two_of_le {s : Subtag} (h : 4 ≤ s.length) : s.isLetters 2 2 = false := by
  rw [isLetters_two, Bool.and_eq_false_iff, decide_eq_false_iff_not]
  exact Or.inl (by omega)

theorem le_length_of_isScript {s : Subtag} (h : s.isScript = true) : 4 ≤ s.length := by
  simp only [isScript, isLetters, Bool.and_eq_true, decide_eq_true_eq] at h
  exact h.1.1

theorem le_length_of_isVariant {s : Subtag} (h : s.isVariant = true) : 4 ≤ s.length := by
  simp only [isVariant, isAlphanumeric, Bool.or_eq_true, Bool.and_eq_true, decide_eq_true_eq] at h
  omega

/-- A region that is read has two letters or three digits, so its length tells which of them. -/
theorem isLetters_two_of_isRegion {s : Subtag} (h : s.isRegion = true) :
    s.isLetters 2 2 = decide (s.length = 2) := by
  by_cases hLength : s.length = 2
  · simpa [isRegion, hLength] using h
  · simp [isLetters_two, hLength]

theorem ofList_map (f : Char → Char) (s : Subtag) :
    String.ofList (s.map f) = (String.ofList s).map f := by
  rw [← String.toList_inj, String.toList_ofList, String.toList_map, String.toList_ofList]

theorem ofList_lower (s : Subtag) : String.ofList s.lower = (String.ofList s).toLower :=
  ofList_map Char.toLower s

theorem ofList_upper (s : Subtag) : String.ofList s.upper = (String.ofList s).toUpper :=
  ofList_map Char.toUpper s

end Subtag

/-- Taking a subtag off drops nothing: it is in front of what is left, or it is not there and all is
left. -/
theorem takeSubtag_eq (p : Subtag → Bool) (subtags : List Subtag) :
    subtags = (takeSubtag p subtags).1.toList ++ (takeSubtag p subtags).2 := by
  cases subtags with
  | nil => rfl
  | cons s rest =>
      rw [takeSubtag]
      split_ifs <;> rfl

theorem of_mem_takeSubtag {p : Subtag → Bool} {subtags : List Subtag} {s : Subtag}
    (h : s ∈ (takeSubtag p subtags).1) : p s = true := by
  cases subtags with
  | nil => simp [takeSubtag] at h
  | cons first rest =>
      rw [takeSubtag] at h
      split_ifs at h with hFirst
      · obtain rfl : first = s := by simpa using h
        exact hFirst
      · simp at h

/-- Extensions begin with a subtag of one letter or digit. Where there are none, nothing is said. -/
theorem length_of_areExtensions {bound : Nat} {seen : List Char} {subtags : List Subtag}
    (h : areExtensions bound seen subtags = true) : ∀ s ∈ subtags.head?, s.length = 1 := by
  unfold areExtensions at h
  split at h
  · simp
  · contradiction
  · simp
  · contradiction

/-- The subtags of a tag, told by what they stand for. Of the extensions only the beginning is kept
in mind, since nothing else of them is looked at where no region stands. -/
structure Parts where
  language : Subtag
  script : Option Subtag
  region : Option Subtag
  variants : List Subtag
  extensions : List Subtag
  isScript : ∀ s ∈ script, s.isScript = true
  isRegion : ∀ s ∈ region, s.isRegion = true
  isVariant : ∀ s ∈ variants, s.isVariant = true
  length_head : ∀ s ∈ extensions.head?, s.length = 1

namespace Parts

def subtags (parts : Parts) : List Subtag :=
  parts.language ::
    (parts.script.toList ++ (parts.region.toList ++ (parts.variants ++ parts.extensions)))

/-- What is read of a tag: its language, script and region in the usual cases. Variants and
extensions are left out. -/
def languageTag (parts : Parts) : LanguageTag where
  language := String.ofList parts.language.lower
  script := parts.script.map fun s => String.ofList s.title
  region := parts.region.map fun s => String.ofList s.upper

/-- Of the regions that are read, those of two letters can be split off as well. Three digits are no
letters, so they never are. -/
theorem region_filter (parts : Parts) :
    parts.languageTag.region.filter (·.length = 2) =
      (parts.region.filter (Subtag.isLetters 2 2)).map fun s => String.ofList s.upper := by
  cases hRegion : parts.region with
  | none => simp [languageTag, hRegion]
  | some s =>
      have hTwo := Subtag.isLetters_two_of_isRegion (parts.isRegion s hRegion)
      by_cases hLength : s.length = 2 <;>
        simp [languageTag, hRegion, Option.filter, hTwo, hLength, Subtag.upper]

end Parts

/-- Whether a tag has extensions, each of which begins with one letter or digit. -/
def hasExtensions (tag : String) : Bool :=
  (subtags tag).any (·.length = 1)

/-- A tag that can be read falls into parts, of which it is read by the first three. A tag that
cannot be read may fall into none. -/
theorem exists_parts {tag : String} {t : LanguageTag} (h : readTag? tag = some t) :
    ∃ parts : Parts, subtags tag = parts.subtags ∧ parts.languageTag = t := by
  simp only [readTag?, Option.bind_eq_bind, Option.bind_eq_some_iff, Prod.exists] at h
  obtain ⟨t', extensions, hLanguage, hExtensions⟩ := h
  split_ifs at hExtensions with hAre
  obtain rfl : t' = t := by simpa using hExtensions
  cases hSubtags : subtags tag with
  | nil => simp [hSubtags, readLanguage] at hLanguage
  | cons language rest =>
      rcases hScript : takeSubtag Subtag.isScript rest with ⟨script, behindScript⟩
      rcases hRegion : takeSubtag Subtag.isRegion behindScript with ⟨region, behindRegion⟩
      simp only [hSubtags, readLanguage, hScript, hRegion] at hLanguage
      split_ifs at hLanguage with hIs hDistinct
      obtain ⟨rfl, rfl⟩ : _ = t' ∧ _ = extensions := by simpa using hLanguage
      have hRest := takeSubtag_eq Subtag.isScript rest
      have hBehind := takeSubtag_eq Subtag.isRegion behindScript
      rw [hScript] at hRest
      rw [hRegion] at hBehind
      refine ⟨{
        language, script, region
        variants := behindRegion.takeWhile Subtag.isVariant
        extensions := behindRegion.dropWhile Subtag.isVariant
        isScript := fun s hMem => of_mem_takeSubtag (by rwa [hScript])
        isRegion := fun s hMem => of_mem_takeSubtag (by rwa [hRegion])
        isVariant := fun s hMem => List.mem_takeWhile_imp hMem
        length_head := length_of_areExtensions hAre }, ?_, rfl⟩
      rw [Parts.subtags, List.takeWhile_append_dropWhile, ← hBehind, ← hRest]

section Parts

variable {tag : String} {parts : Parts} (h : subtags tag = parts.subtags)
include h

/-- What is split off as the language is the first part, in the case of letters that it is written
with. -/
theorem language_of_parts : language tag = String.ofList parts.language := by
  rw [language, h, Parts.subtags, List.headD_cons]

/-- No other part has a subtag of one letter, so a tag without one has no extensions. -/
theorem extensions_of_parts (hNone : hasExtensions tag = false) : parts.extensions = [] := by
  cases hExtensions : parts.extensions with
  | nil => rfl
  | cons s rest =>
      have hLength : s.length = 1 := parts.length_head s (by simp [hExtensions])
      have hMem : s ∈ subtags tag := by simp [h, Parts.subtags, hExtensions]
      simp only [hasExtensions, List.any_eq_false, decide_eq_true_eq] at hNone
      exact absurd hLength (hNone s hMem)

/-- What is split off a tag as its region is the region that it is read with, if this has two
letters, and may otherwise come from an extension. -/
theorem region?_of_parts :
    region? tag = ((parts.region.filter (Subtag.isLetters 2 2)).or
      (parts.extensions.find? (Subtag.isLetters 2 2))).map String.ofList := by
  have hScript : parts.script.toList.find? (Subtag.isLetters 2 2) = none := by
    simp only [List.find?_eq_none, Option.mem_toList]
    intro s hMem
    simp [Subtag.isLetters_two_of_le (Subtag.le_length_of_isScript (parts.isScript s hMem))]
  have hVariants : parts.variants.find? (Subtag.isLetters 2 2) = none := by
    simp only [List.find?_eq_none]
    intro s hMem
    simp [Subtag.isLetters_two_of_le (Subtag.le_length_of_isVariant (parts.isVariant s hMem))]
  have hRegion : parts.region.toList.find? (Subtag.isLetters 2 2) =
      parts.region.filter (Subtag.isLetters 2 2) := by
    cases parts.region <;> simp [Option.filter]
  simp only [region?, ← Subtag.isLetters_two, h, Parts.subtags, List.tail_cons, List.find?_append,
    hScript, hVariants, hRegion, Option.none_or]

end Parts

/-- Tags with letters of the usual cases: the language is in small letters, the region in
capitals. -/
structure UsualLetters (tag : String) : Prop where
  language : (language tag).toLower = language tag
  region : ∀ r ∈ region? tag, r.toUpper = r

/-- Tags of which the same is read and the same is split off. -/
structure Alike (tag tag' : String) : Prop where
  language : language tag = language tag'
  region? : region? tag = region? tag'
  languageTag : languageTag tag = languageTag tag'

/-- The language that is split off differs from the one that is read in the case of its letters
only. No condition on extensions is needed, as it comes first. -/
theorem language_of_readTag? {tag : String} {t : LanguageTag} (h : readTag? tag = some t) :
    (language tag).toLower = t.language := by
  obtain ⟨parts, hParts, rfl⟩ := exists_parts h
  rw [language_of_parts hParts, ← Subtag.ofList_lower]
  rfl

/-- The region that is split off differs from the region that is read in the case of its letters
only, if this has two letters or nothing else can be taken for it. -/
theorem region?_of_readTag? {tag : String} {t : LanguageTag} (h : readTag? tag = some t)
    (hRegion : (∃ r ∈ t.region, r.length = 2) ∨ hasExtensions tag = false) :
    (region? tag).map String.toUpper = t.region.filter (·.length = 2) := by
  obtain ⟨parts, hParts, rfl⟩ := exists_parts h
  have hFirst : (parts.region.filter (Subtag.isLetters 2 2)).or
      (parts.extensions.find? (Subtag.isLetters 2 2)) =
        parts.region.filter (Subtag.isLetters 2 2) := by
    rcases hRegion with ⟨r, hMem, hLength⟩ | hNone
    · have hKept : parts.languageTag.region.filter (·.length = 2) = some r := by
        rw [Option.mem_def.mp hMem]
        simp [Option.filter, hLength]
      rw [Parts.region_filter] at hKept
      obtain ⟨s, hSome, -⟩ := Option.map_eq_some_iff.mp hKept
      rw [hSome, Option.some_or]
    · rw [extensions_of_parts hParts hNone, List.find?_nil, Option.or_none]
  rw [region?_of_parts hParts, hFirst, Parts.region_filter, Option.map_map]
  congr 1
  funext s
  exact (Subtag.ofList_upper s).symm

/-- Tags that are read alike are alike in all that messages depend on, if their letters are of the
usual cases and extensions are not taken for a region. -/
theorem alike_of_readTag? {tag tag' : String} {t : LanguageTag} (h : readTag? tag = some t)
    (h' : readTag? tag' = some t) (hUsual : UsualLetters tag) (hUsual' : UsualLetters tag')
    (hRegion : (∃ r ∈ t.region, r.length = 2) ∨
      hasExtensions tag = false ∧ hasExtensions tag' = false) :
    Alike tag tag' where
  language := by
    rw [← hUsual.language, ← hUsual'.language, language_of_readTag? h, language_of_readTag? h']
  region? := by
    have hUpper {tag : String} (hUsual : UsualLetters tag) :
        (region? tag).map String.toUpper = region? tag := by
      cases hRegion : region? tag with
      | none => rfl
      | some r => rw [Option.map_some, hUsual.region r hRegion]
    rw [← hUpper hUsual, ← hUpper hUsual',
      region?_of_readTag? h (hRegion.imp_right And.left),
      region?_of_readTag? h' (hRegion.imp_right And.right)]
  languageTag := by rw [languageTag, languageTag, h, h']

end Locale

open LocaleMessage.Locale (Alike)

variable {m : Type → Type} {tag tag' : String}

theorem NumberFormat.decimal_of_alike (h : Alike tag tag') (layout : Layout) (n : Number) :
    decimal layout tag n = decimal layout tag' n := by
  simp only [decimal, h.language]

/-- The currency goes by the region that is split off, or else by the language, and by the language
goes the place of its symbol. -/
theorem NumberFormat.money_of_alike (h : Alike tag tag') (n : Number) :
    money tag n = money tag' n := by
  have hCurrency : Currency.ofLocale tag = Currency.ofLocale tag' := by
    simp only [Currency.ofLocale, h.language, h.region?]
  simp only [money, hCurrency, h.language, decimal_of_alike h]

theorem NumberFormat.format_of_alike (h : Alike tag tag') (n : Number) (style : NumberStyle) :
    format n tag style = format n tag' style := by
  simp only [format, ordinal, h.language, decimal_of_alike h, money_of_alike h]

/-- Dates and times are written alike: all conventions for them go by the language and the region
that are split off. -/
theorem DateFormat.format_of_alike (h : Alike tag tag') (dt : DateTime) (part : DatePart)
    (style : DateStyle) : format dt tag part style = format dt tag' part style := by
  have hConventions : Conventions.ofLocale tag = Conventions.ofLocale tag' := by
    simp only [Conventions.ofLocale, h.language, h.region?]
  rw [format, hConventions, format]

/-- Collaborators that write alike in locales that are alike, and tell the same categories there. -/
structure Formatters.RespectsAlike (formatters : Formatters m) : Prop where
  number : formatters.number = NumberFormat.format
  dateTime : formatters.dateTime = DateFormat.format
  category : ∀ {tag tag' : String}, Alike tag tag' → ∀ n type,
    formatters.category n tag type = formatters.category n tag' type

theorem Formatters.respectsAlike_standard [Monad m] : (standard : Formatters m).RespectsAlike where
  number := rfl
  dateTime := rfl
  category h n type := by simp only [standard, Plural.category, h.languageTag]

/-- The services that keep rules respect it because the key of what they keep is what is read of the
tag. So tags that are alike share their rules. -/
theorem Formatters.respectsAlike_cached : cached.RespectsAlike where
  number := rfl
  dateTime := rfl
  category h n type := by simp only [cached, Plural.RuleCache.category, h.languageTag]

theorem Environment.agrees_of_alike (h : Alike tag tag') {formatters : Formatters m}
    (hRespects : formatters.RespectsAlike) (bindings : Bindings) :
    Agrees ⟨bindings, tag, formatters⟩ ⟨bindings, tag', formatters⟩ True := by
  intro id
  refine optionRel_refl (fun value => ?_) (bindings id)
  apply ValuesAgree.refl_of
  · intro n
    constructor
    · intro offset style
      simp only [hRespects.number, NumberFormat.format_of_alike h]
    · exact fun offset type => hRespects.category h _ type
  · intro dt part style
    simp only [hRespects.dateTime, DateFormat.format_of_alike h]

/-- Messages come out alike for tags that are alike, with any bindings and whether they are strict
or not. -/
theorem format_of_alike [Monad m] [LawfulMonad m] (h : Alike tag tag') {formatters : Formatters m}
    (hRespects : formatters.RespectsAlike) (message : Message) (strict : Bool)
    (bindings : Bindings) :
    (CompiledMessage.ofMessage message ⟨tag, strict, formatters⟩).format bindings =
      (CompiledMessage.ofMessage message ⟨tag', strict, formatters⟩).format bindings :=
  CompiledMessage.format_congr rfl (Environment.agrees_of_alike h hRespects bindings)
    fun _ => trivial

/-- Messages depend on a locale tag only through the language, the script and the region that are
read of it: where the letters are of the usual cases, tags with the same of these give the same,
whatever their separators, variants and extensions are. Without a region of two letters there may
be no extensions. -/
theorem format_same_language_tag [Monad m] [LawfulMonad m] {t : Locale.LanguageTag}
    (h : Locale.readTag? tag = some t) (h' : Locale.readTag? tag' = some t)
    (hUsual : Locale.UsualLetters tag) (hUsual' : Locale.UsualLetters tag')
    (hRegion : (∃ r ∈ t.region, r.length = 2) ∨
      Locale.hasExtensions tag = false ∧ Locale.hasExtensions tag' = false)
    (message : Message) (strict : Bool) (bindings : Bindings) :
    let format {m : Type → Type} [Monad m] (tag : String) (formatters : Formatters m) :=
      (CompiledMessage.ofMessage message ⟨tag, strict, formatters⟩).format bindings
    format tag (.standard : Formatters m) = format tag' .standard ∧
      format tag .cached = format tag' .cached :=
  have hAlike := Locale.alike_of_readTag? h h' hUsual hUsual' hRegion
  ⟨format_of_alike hAlike Formatters.respectsAlike_standard message strict bindings,
    format_of_alike hAlike Formatters.respectsAlike_cached message strict bindings⟩

example : Locale.readTag? "en_GB" = Locale.readTag? "en-GB-oxendict-u-ca-buddhist" := by
  decide

/-- Without a region the key of an extension is split off in its place, and dates are written in
another order. -/
example : Locale.readTag? "en-u-ca-buddhist" = Locale.readTag? "en" ∧
    DateFormat.Conventions.ofLocale "en-u-ca-buddhist" ≠ DateFormat.Conventions.ofLocale "en" := by
  decide

end LocaleMessage
