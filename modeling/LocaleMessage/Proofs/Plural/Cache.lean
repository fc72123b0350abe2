import LocaleMessage.Plural.Cache
import Mathlib.Data.List.Nodup

/-! What can be relied on while plural rules are kept. The memory stays within its bounds and holds
each key once, with the rules that belong to the key, so a look-up tells the same whether it finds
its rules kept, finds them given up, or is the first. -/
namespace LocaleMessage.Plural.RuleCache

open LocaleMessage.Locale (LanguageTag)

/-- Every entry was made for its own key, no key has two, and there are no more of them than there
is room for. -/
structure Sound (cache : RuleCache) : Prop where
  length_le : cache.entries.length ≤ capacity
  nodup_keys : (cache.entries.map Prod.fst).Nodup
  rules_eq : ∀ key rules, (key, rules) ∈ cache.entries → rules = rulesOf key.2 key.1

theorem sound_empty : empty.Sound where
  length_le := Nat.zero_le capacity
  nodup_keys := List.nodup_nil
  rules_eq := by simp [empty]

variable {cache : RuleCache} {tag : LanguageTag} {type : PluralType}

/-- The entries that stay when another comes in. -/
def kept (cache : RuleCache) : List ((LanguageTag × PluralType) × Rules) :=
  if capacity ≤ cache.entries.length then cache.entries.tail else cache.entries

/-- Of the entries at most the oldest goes, and the others stay in their order, so no key comes to
stand twice. -/
theorem kept_sublist (cache : RuleCache) : cache.kept.Sublist cache.entries := by
  unfold kept
  split_ifs
  · exact List.tail_sublist _
  · exact List.Sublist.refl _

/-- There is room for one more afterwards, whether one had to go or not. -/
theorem length_kept_lt (h : cache.Sound) : cache.kept.length < capacity := by
  have hLength := h.length_le
  have hPos : 0 < capacity := by decide
  unfold kept
  split_ifs with hFull
  · rw [List.length_tail]
    omega
  · omega

theorem not_mem_keys (h : cache.entries.lookup (tag, type) = none) :
    (tag, type) ∉ cache.entries.map Prod.fst := by
  intro hMem
  obtain ⟨entry, hEntry, hKey⟩ := List.mem_map.mp hMem
  have hOther := List.lookup_eq_none_iff.mp h entry hEntry
  simp [hKey] at hOther

/-- What comes in for a new key keeps the memory sound, whatever has to go for it. For a key that is
already there it might come to have two entries. -/
theorem sound_push (h : cache.Sound) (hNew : cache.entries.lookup (tag, type) = none) :
    (cache.push (tag, type) (rulesOf type tag)).Sound := by
  have hEntries : (cache.push (tag, type) (rulesOf type tag)).entries =
      cache.kept ++ [((tag, type), rulesOf type tag)] := rfl
  have hKeys : (cache.kept.map Prod.fst).Sublist (cache.entries.map Prod.fst) :=
    cache.kept_sublist.map Prod.fst
  constructor
  · have hLength := length_kept_lt h
    simp only [hEntries, List.length_append, List.length_singleton]
    omega
  · rw [hEntries, List.map_append, List.map_singleton, ← List.concat_eq_append]
    apply List.Nodup.concat
    · intro hMem
      exact not_mem_keys hNew (hKeys.subset hMem)
    · exact h.nodup_keys.sublist hKeys
  · intro key rules hMem
    rw [hEntries] at hMem
    rcases List.mem_append.mp hMem with hOld | hLast
    · exact h.rules_eq key rules (cache.kept_sublist.subset hOld)
    · obtain ⟨rfl, rfl⟩ : key = (tag, type) ∧ rules = rulesOf type tag := by
        simpa using hLast
      rfl

/-- A run over rules that are kept whose result is the same as with none kept, and which keeps sound
rules sound. What is kept afterwards may be anything that is sound. -/
structure Steady {α : Type} (run : StateM RuleCache α) : Prop where
  result : ∀ cache : RuleCache, cache.Sound → (run cache).1 = (run empty).1
  sound : ∀ cache : RuleCache, cache.Sound → (run cache).2.Sound

namespace Steady

variable {α β : Type}

theorem pure (a : α) : Steady (pure a : StateM RuleCache α) where
  result _ _ := rfl
  sound _ h := h

/-- Steady runs one behind the other are steady: the second one finds a sound memory, and need not
find the one it would have found alone. -/
theorem bind {run : StateM RuleCache α} {next : α → StateM RuleCache β} (hRun : Steady run)
    (hNext : ∀ a, Steady (next a)) : Steady (run >>= next) where
  result cache h := by
    change (next (run cache).1 (run cache).2).1 = (next (run empty).1 (run empty).2).1
    rw [hRun.result cache h, (hNext _).result _ (hRun.sound cache h),
      (hNext _).result _ (hRun.sound empty sound_empty)]
  sound cache h := by
    exact (hNext (run cache).1).sound _ (hRun.sound cache h)

theorem map {run : StateM RuleCache α} (f : α → β) (h : Steady run) : Steady (f <$> run) := by
  rw [map_eq_pure_bind]
  exact h.bind fun a => .pure (f a)

end Steady

/-- Whether rules were kept or not, a look-up tells those of its language. Only a sound memory can
be relied on for this: entries of other memories need not be of their key. -/
theorem rules_result (h : cache.Sound) (tag : LanguageTag) (type : PluralType) :
    (rules tag type cache).1 = rulesOf type tag := by
  unfold rules
  split
  · next found hFound =>
      obtain ⟨before, after, hEntries, _⟩ := List.lookup_eq_some_iff.mp hFound
      apply h.rules_eq (tag, type) found
      simp [hEntries]
  · rfl

/-- A look-up of rules is steady, both where the rules are kept and where they come in. -/
theorem steady_rules (tag : LanguageTag) (type : PluralType) : Steady (rules tag type) where
  result cache h := by
    rw [rules_result h, rules_result sound_empty]
  sound cache h := by
    unfold rules
    split
    · exact h
    · next hNew => exact sound_push h hNew

/-- The category of a number does not depend on what has been asked before. A number without digits
asks for no rules and changes nothing. -/
theorem steady_category (n : Number) (locale : String) (type : PluralType) :
    Steady (category n locale type) := by
  unfold category
  cases Operands.ofNumber? n with
  | none => exact .pure PluralCategory.other
  | some x => exact (steady_rules _ type).bind fun rules => .pure (rules.category x)

end LocaleMessage.Plural.RuleCache
