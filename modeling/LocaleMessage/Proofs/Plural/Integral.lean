import LocaleMessage.Plural.Resolver
import LocaleMessage.Proofs.Binary64.Exact
import Mathlib.Data.List.Find

/-! Plural categories of floating-point numbers that are integers. The rules see the digits of the
shortest text, which is that of an integer nearest to the number; up to 53 bits it is the number
itself, and beyond them its last digits may differ. -/
namespace LocaleMessage.Plural

/-- A relation that cannot tell a long number from its last eighteen digits behind a one: its
modulus divides the place of that one, or its ranges end below it. -/
def Relation.Short (relation : Relation) : Prop :=
  (∀ modulus ∈ relation.modulus, modulus ∣ 10 ^ 18) ∧
    (relation.modulus = none → ∀ range ∈ relation.ranges, range.2 < 10 ^ 18)

instance (relation : Relation) : Decidable relation.Short :=
  inferInstanceAs (Decidable (_ ∧ _))

/-- A modulus that divides the place of the one cannot tell whether the digits in front of it were
dropped. -/
theorem keepInteger_mod {modulus : Nat} (h : modulus ∣ 10 ^ 18) (n : Nat) :
    keepInteger n % modulus = n % modulus := by
  unfold keepInteger
  split_ifs
  · rfl
  · change (10 ^ 18 + n % 10 ^ 18) % modulus = n % modulus
    rw [Nat.add_mod, Nat.mod_eq_zero_of_dvd h, Nat.zero_add, Nat.mod_mod, Nat.mod_mod_of_dvd n h]

/-- No range reaches up to numbers of which digits are dropped, so these lie outside with all their
digits and without some of them. -/
theorem inRanges_keepInteger {ranges : List (Nat × Nat)} (h : ∀ range ∈ ranges, range.2 < 10 ^ 18)
    (n : Nat) : Relation.inRanges ranges (keepInteger n) = Relation.inRanges ranges n := by
  have hBeyond (k : Nat) (hLong : 10 ^ 18 ≤ k) : Relation.inRanges ranges k = false := by
    apply List.any_eq_false.mpr
    intro range hMem
    have hEnd := h range hMem
    simp only [Bool.and_eq_true, decide_eq_true_eq]
    omega
  unfold keepInteger
  split_ifs with hShort
  · rfl
  · rw [hBeyond _ (by omega), hBeyond n (by omega)]

/-- A short relation holds of the digits that are kept just if it holds of the number. Both shapes
of a relation are covered, the one with a modulus and the one without. -/
theorem Relation.Short.holds_keepInteger {relation : Relation} (h : relation.Short) (n : Nat) :
    relation.holds ⟨keepInteger n, 0, 0⟩ = relation.holds ⟨n, 0, 0⟩ := by
  have hFound :
      Relation.inRanges relation.ranges
          (relation.modulus.elim (keepInteger n) (keepInteger n % ·)) =
        Relation.inRanges relation.ranges (relation.modulus.elim n (n % ·)) := by
    cases hModulus : relation.modulus with
    | none => exact inRanges_keepInteger (h.2 hModulus) n
    | some modulus => simp only [Option.elim, keepInteger_mod (h.1 modulus hModulus)]
  unfold Relation.holds
  cases relation.operand with
  | n | i => simp only [Operands.get?, if_true, hFound]
  | v | f | t => rfl

/-- Conditions see of operands only what their relations say of them. The operands themselves may
differ. -/
theorem Condition.holds_congr {condition : Condition} {x y : Operands}
    (h : ∀ relations ∈ condition, ∀ relation ∈ relations, relation.holds x = relation.holds y) :
    condition.holds x = condition.holds y := by
  have hAll : ∀ relations ∈ condition, relations.all (·.holds x) = relations.all (·.holds y) := by
    intro relations hRelations
    rw [Bool.eq_iff_iff, List.all_eq_true, List.all_eq_true]
    apply forall₂_congr
    intro relation hRelation
    rw [h relations hRelations relation hRelation]
  rw [holds, holds, Bool.eq_iff_iff, List.any_eq_true, List.any_eq_true]
  apply exists_congr
  intro relations
  apply and_congr_right
  intro hRelations
  rw [hAll relations hRelations]

theorem Rules.category_congr {rules : Rules} {x y : Operands}
    (h : ∀ rule ∈ rules, ∀ relations ∈ rule.2, ∀ relation ∈ relations,
      relation.holds x = relation.holds y) : rules.category x = rules.category y := by
  have hFind : rules.find? (fun rule => rule.2.holds x) =
      rules.find? fun rule => rule.2.holds y := by
    apply List.find?_congr
    intro rule hRule
    exact Condition.holds_congr (h rule hRule)
  rw [category, hFind, category]

/-- Rules that cannot tell a long number from the digits that are kept of it. -/
def Rules.Short (rules : Rules) : Prop :=
  ∀ rule ∈ rules, ∀ relations ∈ rule.2, ∀ relation ∈ relations, relation.Short

instance (rules : Rules) : Decidable rules.Short :=
  inferInstanceAs (Decidable (∀ _ ∈ _, _))

/-- Short rules put a number of any length into the category of the digits that are kept of it. -/
theorem Rules.Short.category_keepInteger {rules : Rules} (h : rules.Short) (n : Nat) :
    rules.category ⟨keepInteger n, 0, 0⟩ = rules.category ⟨n, 0, 0⟩ := by
  apply category_congr
  intro rule hRule relations hRelations relation hRelation
  exact (h rule hRule relations hRelations relation hRelation).holds_keepInteger n

/-- The rules of every language are short. All relations in the tables are gone through; a language
that is in neither table has no rules. -/
theorem short_rulesOfLanguage (type : PluralType) (language : String) :
    (rulesOfLanguage type language).Short := by
  have hTable : ∀ entry ∈ cardinalRules ++ ordinalRules, Rules.Short entry.2 := by decide +kernel
  have hRules (table : List (List String × Rules)) (h : ∀ entry ∈ table, Rules.Short entry.2) :
      Rules.Short (((table.find? fun entry => entry.1.contains language).map (·.2)).getD []) := by
    cases hFound : table.find? fun entry => entry.1.contains language with
    | none => simp [Rules.Short]
    | some entry => exact h entry (List.mem_of_find?_eq_some hFound)
  cases type with
  | cardinal => exact hRules _ fun entry hMem => hTable entry (List.mem_append_left _ hMem)
  | ordinal => exact hRules _ fun entry hMem => hTable entry (List.mem_append_right _ hMem)

/-- Rules are borrowed from other languages for some tags, and some tags have none. All of these are
short as well. -/
theorem short_rulesOf (type : PluralType) (tag : Locale.LanguageTag) : (rulesOf type tag).Short := by
  unfold rulesOf
  split_ifs
  · exact short_rulesOfLanguage _ _
  · simp [Rules.Short]
  · exact short_rulesOfLanguage _ _
  · exact short_rulesOfLanguage _ _

/-- A finite number that is an integer falls into the category of the integer that its text writes
without the sign. That is an integer nearest to the number, and up to 53 bits the number itself. -/
theorem category_integral {f : Binary64} {i : Int} (h : f.toInt? = some i) :
    ∃ k : Nat, f.abs.text = intText k ∧ (i.natAbs < 2 ^ 53 → k = i.natAbs) ∧
      ∀ locale type, category (.decimal f) locale type =
        (rulesOf type (Locale.languageTag locale)).category ⟨k, 0, 0⟩ := by
  rw [Binary64.toInt?_eq_some_iff] at h
  match f with
  | .finite negative x =>
      have hValue : x.value = i.natAbs := by
        rw [Binary64.value_eq_abs h, Nat.cast_natAbs, Int.cast_abs]
      obtain ⟨k, hShortest, hNearest⟩ := Magnitude.exists_shortest_isNat hValue
      refine ⟨k, ?_, ?_, ?_⟩
      · have hSign : ¬ (k : Int) < 0 := by omega
        simp [Binary64.abs, Binary64.text, hShortest.text, intText, hSign]
      · intro hBits
        exact Magnitude.eq_of_isNearestTo hValue hBits hNearest
      · intro locale type
        simp only [category, Operands.ofNumber?, Operands.ofDecimal, hShortest.integerPart,
          hShortest.fractionDigits, List.take_nil, List.length_nil]
        exact (short_rulesOf type _).category_keepInteger k

/-- Sixteen lies between neighbours here, and the last two digits of the text are not those of the
number: the number ends in 64 and the text in 60. -/
example :
    let f : Binary64 := .finite false ⟨6250000000000004, 4, by decide⟩
    f.toInt? = some 100000000000000064 ∧ f.text = "100000000000000060" ∧
      category (.decimal f) "ru" .cardinal = .many ∧
      category (.integer 100000000000000064) "ru" .cardinal = .few := by
  decide +kernel

end LocaleMessage.Plural
