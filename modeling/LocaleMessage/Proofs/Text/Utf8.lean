import LocaleMessage.Text.Utf8
import Mathlib.Data.Char

/-! The bytes that text is written with, and what decoding makes of any bytes. Each reader of one
character answers exactly where a character is written with the bytes that it is given, so that
decoding takes characters from the front for as long as there is one. -/
namespace LocaleMessage.Text.Utf8

open String (utf8EncodeChar)

variable {b₀ b₁ b₂ b₃ : UInt8} {c : Char} {bytes rest : List UInt8}

/-- No code point lies beyond the last plane, so four bytes are enough for each. -/
theorem toNat_lt (c : Char) : c.toNat < 0x110000 := by
  rcases c.valid with h | h
  · exact Nat.lt_trans h (by decide)
  · exact h.2

/-- A number that is a code point is the number of its character. Surrogates are left out, for which
another character would be made. -/
theorem toNat_ofNat {n : Nat} (h : n.isValidChar) : (Char.ofNat n).toNat = n := by
  rw [Char.ofNat, dif_pos h]
  rfl

section Bytes

/-! The bytes of a character in numbers, for each length. Bytes are compared by their values, and
the four ranges of characters exclude each other. -/

theorem encodeChar_eq_one_iff :
    utf8EncodeChar c = [b₀] ↔ c.toNat < 0x80 ∧ b₀.toNat = c.toNat := by
  simp only [utf8EncodeChar, Char.toNat_val]
  split_ifs <;> simp only [List.cons.injEq, reduceCtorEq, and_false, and_true, false_iff,
    ← UInt8.toNat_inj, UInt8.toNat_ofNat'] <;> omega

theorem encodeChar_eq_two_iff :
    utf8EncodeChar c = [b₀, b₁] ↔ 0x80 ≤ c.toNat ∧ c.toNat < 0x800 ∧
      b₀.toNat = c.toNat / 0x40 + 0xC0 ∧ b₁.toNat = c.toNat % 0x40 + 0x80 := by
  simp only [utf8EncodeChar, Char.toNat_val]
  split_ifs <;> simp only [List.cons.injEq, reduceCtorEq, and_false, and_true, false_iff,
    ← UInt8.toNat_inj, UInt8.toNat_ofNat'] <;> omega

/-- Three bytes reach up to the end of the first plane. That surrogates are not among them is no
part of this, as they are no characters. -/
theorem encodeChar_eq_three_iff :
    utf8EncodeChar c = [b₀, b₁, b₂] ↔ 0x800 ≤ c.toNat ∧ c.toNat < 0x10000 ∧
      b₀.toNat = c.toNat / 0x1000 + 0xE0 ∧ b₁.toNat = c.toNat / 0x40 % 0x40 + 0x80 ∧
      b₂.toNat = c.toNat % 0x40 + 0x80 := by
  simp only [utf8EncodeChar, Char.toNat_val]
  split_ifs <;> simp only [List.cons.injEq, reduceCtorEq, and_false, and_true, false_iff,
    ← UInt8.toNat_inj, UInt8.toNat_ofNat'] <;> omega

/-- Four bytes are for all characters behind the first plane; no upper bound is asked for, since
every character is below it. -/
theorem encodeChar_eq_four_iff :
    utf8EncodeChar c = [b₀, b₁, b₂, b₃] ↔ 0x10000 ≤ c.toNat ∧
      b₀.toNat = c.toNat / 0x40000 + 0xF0 ∧ b₁.toNat = c.toNat / 0x1000 % 0x40 + 0x80 ∧
      b₂.toNat = c.toNat / 0x40 % 0x40 + 0x80 ∧ b₃.toNat = c.toNat % 0x40 + 0x80 := by
  have hc := toNat_lt c
  simp only [utf8EncodeChar, Char.toNat_val]
  split_ifs <;> simp only [List.cons.injEq, reduceCtorEq, and_false, and_true, false_iff,
    ← UInt8.toNat_inj, UInt8.toNat_ofNat'] <;> omega

end Bytes

/-- A number is taken for a character if it is that of one, and if it would not fit in
fewer bytes. -/
theorem scalar?_eq_some_iff {least n : Nat} :
    scalar? least n = some c ↔ least ≤ n ∧ c.toNat = n := by
  simp only [scalar?, Option.ite_none_right_eq_some, Bool.and_eq_true, decide_eq_true_eq,
    Option.some.injEq]
  constructor
  · rintro ⟨⟨hLeast, hValid⟩, rfl⟩
    exact ⟨hLeast, toNat_ofNat hValid⟩
  · rintro ⟨hLeast, rfl⟩
    exact ⟨⟨hLeast, c.valid⟩, Char.ofNat_toNat c⟩

theorem tail?_eq_some_iff {b : UInt8} {t : Nat} :
    tail? b = some t ↔ b.toNat = t + 0x80 ∧ t < 0x40 := by
  simp only [tail?, Option.ite_none_right_eq_some, Bool.and_eq_true, decide_eq_true_eq,
    Option.some.injEq]
  omega

theorem one?_eq_some_iff : one? b₀ = some c ↔ utf8EncodeChar c = [b₀] := by
  rw [encodeChar_eq_one_iff, one?, Option.ite_none_right_eq_some, Option.some.injEq]
  constructor
  · rintro ⟨h, rfl⟩
    rw [toNat_ofNat (Or.inl (Nat.lt_trans h (by decide)))]
    exact ⟨h, rfl⟩
  · rintro ⟨h, hb⟩
    rw [hb]
    exact ⟨h, Char.ofNat_toNat c⟩

/-- Two bytes are read just where some character is written with them. Longer forms of a shorter
character are refused. -/
theorem two?_eq_some_iff : two? b₀ b₁ = some c ↔ utf8EncodeChar c = [b₀, b₁] := by
  simp only [encodeChar_eq_two_iff, two?, Option.bind_eq_bind, Option.bind_eq_some_iff,
    tail?_eq_some_iff, Option.ite_none_right_eq_some, scalar?_eq_some_iff, Bool.and_eq_true,
    decide_eq_true_eq]
  constructor
  · rintro ⟨t₁, h₁, h₀, hc⟩
    omega
  · intro h
    exact ⟨c.toNat % 0x40, by omega⟩

/-- Three bytes are read just where some character is written with them; surrogates are refused with
the longer forms. -/
theorem three?_eq_some_iff : three? b₀ b₁ b₂ = some c ↔ utf8EncodeChar c = [b₀, b₁, b₂] := by
  simp only [encodeChar_eq_three_iff, three?, Option.bind_eq_bind, Option.bind_eq_some_iff,
    tail?_eq_some_iff, Option.ite_none_right_eq_some, scalar?_eq_some_iff, Bool.and_eq_true,
    decide_eq_true_eq]
  constructor
  · rintro ⟨t₁, h₁, t₂, h₂, h₀, hc⟩
    omega
  · intro h
    exact ⟨c.toNat / 0x40 % 0x40, by omega, c.toNat % 0x40, by omega⟩

/-- Four bytes are read just where some character is written with them; what lies beyond the last
plane is refused. -/
theorem four?_eq_some_iff :
    four? b₀ b₁ b₂ b₃ = some c ↔ utf8EncodeChar c = [b₀, b₁, b₂, b₃] := by
  have hRange := toNat_lt c
  simp only [encodeChar_eq_four_iff, four?, Option.bind_eq_bind, Option.bind_eq_some_iff,
    tail?_eq_some_iff, Option.ite_none_right_eq_some, scalar?_eq_some_iff, Bool.and_eq_true,
    decide_eq_true_eq]
  constructor
  · rintro ⟨t₁, h₁, t₂, h₂, t₃, h₃, h₀, hc⟩
    omega
  · intro h
    exact ⟨c.toNat / 0x1000 % 0x40, by omega, c.toNat / 0x40 % 0x40, by omega, c.toNat % 0x40,
      by omega⟩

/-- No character has more than four bytes, so where none of these lengths gives one, no character
comes first. -/
theorem ne_encodeChar_append (h₁ : ∀ c, utf8EncodeChar c ≠ bytes.take 1)
    (h₂ : ∀ c, utf8EncodeChar c ≠ bytes.take 2) (h₃ : ∀ c, utf8EncodeChar c ≠ bytes.take 3)
    (h₄ : ∀ c, utf8EncodeChar c ≠ bytes.take 4) (c : Char) (rest : List UInt8) :
    bytes ≠ utf8EncodeChar c ++ rest := by
  rintro rfl
  have hTake : utf8EncodeChar c = (utf8EncodeChar c ++ rest).take c.utf8Size := by
    rw [← String.length_utf8EncodeChar, List.take_left]
  rcases c.utf8Size_eq with h | h | h | h <;> rw [h] at hTake
  · exact h₁ c hTake
  · exact h₂ c hTake
  · exact h₃ c hTake
  · exact h₄ c hTake

/-- The bytes of a character begin no other bytes of a character. This is what makes the first
character of some bytes the only one. -/
theorem eq_of_encodeChar_append {c c' : Char} {rest' : List UInt8}
    (h : utf8EncodeChar c ++ rest = utf8EncodeChar c' ++ rest') : c = c' ∧ rest = rest' := by
  have hFirst (c : Char) (rest : List UInt8) :
      (utf8EncodeChar c ++ rest).toByteArray.utf8DecodeChar? 0 = some c := by
    rw [List.toByteArray_append]
    exact ByteArray.utf8DecodeChar?_utf8EncodeChar_append
  obtain rfl : c = c' := by
    rw [← Option.some_inj, ← hFirst c rest, h, hFirst c' rest']
  exact ⟨rfl, List.append_cancel_left h⟩

/-- The bytes of a text. -/
def encode (text : List Char) : List UInt8 :=
  text.flatMap utf8EncodeChar

/-- Decoding takes the character whose bytes come first, and stops where they are those of none. -/
theorem decode_cases (bytes : List UInt8) :
    (∃ c rest, bytes = utf8EncodeChar c ++ rest ∧ decode bytes = push c (decode rest)) ∨
      (∀ c rest, bytes ≠ utf8EncodeChar c ++ rest) ∧ decode bytes = ([], bytes) := by
  fun_cases decode bytes with
  | case1 => exact Or.inr ⟨by simp [String.utf8EncodeChar_ne_nil], rfl⟩
  | case2 b₀ rest c h => exact Or.inl ⟨c, rest, by rw [one?_eq_some_iff.mp h]; rfl, rfl⟩
  | case3 b₀ h₁ =>
      simp only [one?_eq_some_iff] at h₁
      exact Or.inr ⟨ne_encodeChar_append h₁ h₁ h₁ h₁, rfl⟩
  | case4 b₀ b₁ rest c h => exact Or.inl ⟨c, rest, by rw [two?_eq_some_iff.mp h]; rfl, rfl⟩
  | case5 b₀ b₁ h₁ h₂ =>
      simp only [one?_eq_some_iff, two?_eq_some_iff] at h₁ h₂
      exact Or.inr ⟨ne_encodeChar_append h₁ h₂ h₂ h₂, rfl⟩
  | case6 b₀ b₁ b₂ rest c h =>
      exact Or.inl ⟨c, rest, by rw [three?_eq_some_iff.mp h]; rfl, rfl⟩
  | case7 b₀ b₁ b₂ h₁ h₂ h₃ =>
      simp only [one?_eq_some_iff, two?_eq_some_iff, three?_eq_some_iff] at h₁ h₂ h₃
      exact Or.inr ⟨ne_encodeChar_append h₁ h₂ h₃ h₃, rfl⟩
  | case8 b₀ b₁ b₂ b₃ rest c h =>
      exact Or.inl ⟨c, rest, by rw [four?_eq_some_iff.mp h]; rfl, rfl⟩
  | case9 b₀ b₁ b₂ b₃ rest h₁ h₂ h₃ h₄ =>
      simp only [one?_eq_some_iff, two?_eq_some_iff, three?_eq_some_iff,
        four?_eq_some_iff] at h₁ h₂ h₃ h₄
      exact Or.inr ⟨ne_encodeChar_append h₁ h₂ h₃ h₄, rfl⟩

/-- The bytes of a character are decoded to it whatever comes behind them, be it text or not. No
more bytes than these have to be looked at. -/
theorem decode_encodeChar_append (c : Char) (rest : List UInt8) :
    decode (utf8EncodeChar c ++ rest) = push c (decode rest) := by
  rcases decode_cases (utf8EncodeChar c ++ rest) with ⟨c', rest', hBytes, hDecode⟩ | ⟨hNone, _⟩
  · obtain ⟨rfl, rfl⟩ := eq_of_encodeChar_append hBytes
    exact hDecode
  · exact absurd rfl (hNone c rest)

/-- A text in front of other bytes is decoded whole, and they are decoded as if they stood alone. -/
theorem decode_encode_append (text : List Char) (rest : List UInt8) :
    decode (encode text ++ rest) = (text ++ (decode rest).1, (decode rest).2) := by
  induction text with
  | nil => rfl
  | cons c others ih =>
      rw [encode, List.flatMap_cons, ← encode, List.append_assoc, decode_encodeChar_append, ih]
      rfl

/-- Decoding loses no bytes. What it leaves is untouched, also where a character has been
cut off. -/
theorem encode_decode (bytes : List UInt8) :
    encode (decode bytes).1 ++ (decode bytes).2 = bytes := by
  rcases decode_cases bytes with ⟨c, rest, hBytes, hDecode⟩ | ⟨_, hDecode⟩
  · have hShorter : rest.length < bytes.length := by
      have hPositive := List.length_pos_iff.mpr (String.utf8EncodeChar_ne_nil (c := c))
      rw [hBytes, List.length_append]
      omega
    rw [hDecode, push, encode, List.flatMap_cons, ← encode, List.append_assoc,
      encode_decode rest, hBytes]
  · rw [hDecode]
    rfl
termination_by bytes.length

theorem toUTF8_eq_encode (text : String) : text.toUTF8 = (encode text.toList).toByteArray := by
  rw [String.toUTF8_eq_toByteArray, ← String.utf8Encode_toList]
  rfl

theorem decode_of_toUTF8 {text : String} (h : bytes.toByteArray = text.toUTF8) :
    decode bytes = (text.toList, []) := by
  rw [toUTF8_eq_encode, List.toByteArray_inj] at h
  rw [h, ← List.append_nil (encode _), decode_encode_append]
  simp [decode]

/-- Bytes are valid if they are decoded whole. -/
theorem isValidUTF8_iff : bytes.toByteArray.IsValidUTF8 ↔ (decode bytes).2 = [] := by
  constructor
  · intro hValid
    have hText : bytes.toByteArray = (String.ofByteArray _ hValid).toUTF8 := rfl
    rw [decode_of_toUTF8 hText]
  · intro hWhole
    have hBytes := encode_decode bytes
    rw [hWhole, List.append_nil] at hBytes
    exact ⟨(decode bytes).1, (congrArg List.toByteArray hBytes).symm⟩

/-- The text whose bytes stand at the front, and as many of them as there can be. It may be empty,
and there is always one. -/
structure IsLongestText (text : String) (bytes : List UInt8) : Prop where
  isFront : ∃ rest, bytes.toByteArray = text.toUTF8 ++ List.toByteArray rest
  longest (other : String) (rest : List UInt8) :
    bytes.toByteArray = other.toUTF8 ++ rest.toByteArray → other.utf8ByteSize ≤ text.utf8ByteSize

/-- What is decoded is the longest text at the front: where decoding stops, no character goes on. -/
theorem isLongestText_decode (bytes : List UInt8) :
    IsLongestText (String.ofList (decode bytes).1) bytes where
  isFront := by
    refine ⟨(decode bytes).2, ?_⟩
    rw [toUTF8_eq_encode, String.toList_ofList, ← List.toByteArray_append, encode_decode]
  longest other rest h := by
    rw [toUTF8_eq_encode, ← List.toByteArray_append, List.toByteArray_inj] at h
    rw [h, decode_encode_append, String.ofList_append, String.utf8ByteSize_append,
      String.ofList_toList]
    exact Nat.le_add_right ..

end LocaleMessage.Text.Utf8
