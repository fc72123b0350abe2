import LocaleMessage.Proofs.NumberFormat.Decimal

/-! Amounts of money. They are decimals in the layout of their currency, from which the sign is
taken off and put in front of the symbol, and the symbol adds no digits. -/
namespace LocaleMessage.NumberFormat

/-- The layout of amounts in the currency of a locale. Its decimals are those of the currency, at
least and at most. -/
def moneyLayout (locale : String) : Layout :=
  .fixed (Currency.ofLocale locale).digits

/-- An amount with the symbol of the currency behind it, or else in front of it. The sign is in
front of both. -/
def withSymbol (locale : String) (sign amount : List Char) : List Char :=
  if Locale.language locale ∈ symbolLastLanguages then
    sign ++ amount ++ '\u00a0' :: (Currency.ofLocale locale).symbol.toList
  else sign ++ (Currency.ofLocale locale).symbol.toList ++ amount

variable {locale : String} {n : Number}

/-- The minus of a decimal is taken off and put in front of everything, whether the symbol comes
next or the amount. -/
theorem money_of_minus {amount : List Char}
    (h : decimal (moneyLayout locale) locale n = '-' :: amount) :
    money locale n = withSymbol locale ['-'] amount := by
  rw [moneyLayout] at h
  rw [money, h]
  rfl

theorem money_of_head (h : (decimal (moneyLayout locale) locale n).head? ≠ some '-') :
    money locale n = withSymbol locale [] (decimal (moneyLayout locale) locale n) := by
  cases hAmount : decimal (moneyLayout locale) locale n with
  | nil =>
      rw [moneyLayout] at hAmount
      rw [money, hAmount]
      rfl
  | cons c amount =>
      rw [hAmount] at h
      have hNe : c ≠ '-' := by simpa using h
      rw [moneyLayout] at hAmount
      simp [money, hAmount, hNe, withSymbol]

/-- No symbol has a digit in it, so the digits of an amount are those of its decimal. Symbols of
several letters are included. -/
theorem isDigit_symbol (currency : Currency) :
    ∀ c ∈ currency.symbol.toList, c.isDigit = false := by
  cases currency <;> simp [Currency.symbol]

theorem filter_withSymbol {p : Char → Bool} (hDigit : ∀ c, p c = true → c.isDigit = true)
    (locale : String) (sign amount : List Char) :
    (withSymbol locale sign amount).filter p = (sign ++ amount).filter p := by
  have hSymbol := isDigit_symbol (Currency.ofLocale locale)
  have hSpaced : ∀ c ∈ '\u00a0' :: (Currency.ofLocale locale).symbol.toList, c.isDigit = false :=
    List.forall_mem_cons.mpr ⟨by decide, hSymbol⟩
  rw [withSymbol]
  split_ifs
  · rw [List.filter_append, filter_eq_nil hDigit hSpaced, List.append_nil]
  · rw [List.filter_append, List.filter_append, filter_eq_nil hDigit hSymbol, List.append_nil,
      List.filter_append]

/-- An amount of money has the digits of the decimal that it is, in their order, wherever the symbol
stands. -/
theorem filter_money {p : Char → Bool} (hDigit : ∀ c, p c = true → c.isDigit = true)
    (locale : String) (n : Number) :
    (money locale n).filter p = (decimal (moneyLayout locale) locale n).filter p := by
  by_cases hHead : (decimal (moneyLayout locale) locale n).head? = some '-'
  · obtain ⟨amount, hAmount⟩ := List.head?_eq_some_iff.mp hHead
    rw [money_of_minus hAmount, filter_withSymbol hDigit, hAmount, List.singleton_append]
  · rw [money_of_head hHead, filter_withSymbol hDigit, List.nil_append]

end LocaleMessage.NumberFormat
