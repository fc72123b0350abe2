import LocaleMessage.Text.Blank

/-! White space and the trimming of text that has none at one of its ends. -/
namespace LocaleMessage.Text

/-- Digits are visible, so neither end of a run of them is trimmed. -/
theorem isSpace_of_isDigit {c : Char} (h : c.isDigit = true) : isSpace c = false := by
  obtain ⟨hLow, hHigh⟩ : 48 ≤ c.toNat ∧ c.toNat ≤ 57 := Char.isDigit_iff_toNat.mp h
  simp only [isSpace, Bool.or_eq_false_iff, Bool.and_eq_false_iff, decide_eq_false_iff_not]
  omega

theorem trimLeft_cons {c : Char} (h : isSpace c = false) (text : List Char) :
    trimLeft (c :: text) = c :: text := by
  rw [trimLeft, List.dropWhile_cons_of_neg (by simp [h])]

theorem trimLeft_trimLeft (text : List Char) : trimLeft (trimLeft text) = trimLeft text := by
  induction text with
  | nil => rfl
  | cons c cs ih =>
      cases hSpace : isSpace c with
      | true => rw [show trimLeft (c :: cs) = trimLeft cs by simp [trimLeft, hSpace], ih]
      | false => rw [trimLeft_cons hSpace, trimLeft_cons hSpace]

/-- Text without white space is trimmed to itself. The empty text is included. -/
theorem trim_of_forall {text : List Char} (h : ∀ c ∈ text, isSpace c = false) :
    trim text = text := by
  have hTrim (text : List Char) (h : ∀ c ∈ text, isSpace c = false) : trimLeft text = text := by
    cases text with
    | nil => rfl
    | cons c cs => exact trimLeft_cons (h c (by simp)) cs
  rw [trim, hTrim text h, hTrim text.reverse fun c hMem => h c (List.mem_reverse.mp hMem),
    List.reverse_reverse]

/-- Text that does not end in white space is trimmed in front only. White space inside of
it stays. -/
theorem trim_concat {c : Char} (h : isSpace c = false) (text : List Char) :
    trim (text ++ [c]) = trimLeft (text ++ [c]) := by
  have hDrop : trimLeft (text ++ [c]) = trimLeft text ++ [c] := by
    induction text with
    | nil => exact trimLeft_cons h []
    | cons d ds ih =>
        cases hSpace : isSpace d with
        | true => simpa [trimLeft, hSpace] using ih
        | false => rw [List.cons_append, trimLeft_cons hSpace, trimLeft_cons hSpace]; rfl
  rw [trim, hDrop, List.reverse_append, List.reverse_singleton, List.singleton_append,
    trimLeft_cons h, List.reverse_cons, List.reverse_reverse]

end LocaleMessage.Text
