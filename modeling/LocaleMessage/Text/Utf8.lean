/-!
Reading text from bytes in UTF-8. A character has one encoding: forms longer than needed,
surrogates and numbers beyond the last code point are refused.
-/

namespace LocaleMessage.Text.Utf8

/-- The character with this number, if there is one and it is at least `least`. -/
def scalar? (least n : Nat) : Option Char :=
  if least ≤ n && n.isValidChar then some (Char.ofNat n) else none

/-- The six bits that a continuation byte carries. -/
def tail? (b : UInt8) : Option Nat :=
  if 0x80 ≤ b.toNat && b.toNat < 0xC0 then some (b.toNat - 0x80) else none

/-- A character of one byte. -/
def one? (b : UInt8) : Option Char :=
  if b.toNat < 0x80 then some (Char.ofNat b.toNat) else none

/-- A character of two bytes. -/
def two? (b₀ b₁ : UInt8) : Option Char := do
  let t₁ ← tail? b₁
  if 0xC0 ≤ b₀.toNat && b₀.toNat < 0xE0 then
    scalar? 0x80 ((b₀.toNat - 0xC0) * 0x40 + t₁)
  else none

/-- A character of three bytes. -/
def three? (b₀ b₁ b₂ : UInt8) : Option Char := do
  let t₁ ← tail? b₁
  let t₂ ← tail? b₂
  if 0xE0 ≤ b₀.toNat && b₀.toNat < 0xF0 then
    scalar? 0x800 (((b₀.toNat - 0xE0) * 0x40 + t₁) * 0x40 + t₂)
  else none

/-- A character of four bytes. -/
def four? (b₀ b₁ b₂ b₃ : UInt8) : Option Char := do
  let t₁ ← tail? b₁
  let t₂ ← tail? b₂
  let t₃ ← tail? b₃
  if 0xF0 ≤ b₀.toNat && b₀.toNat < 0xF8 then
    scalar? 0x10000 ((((b₀.toNat - 0xF0) * 0x40 + t₁) * 0x40 + t₂) * 0x40 + t₃)
  else none

/-- Puts a character in front of the text that was decoded. -/
def push (c : Char) (decoded : List Char × List UInt8) : List Char × List UInt8 :=
  (c :: decoded.1, decoded.2)

/-- The characters of the longest prefix that is valid, and the bytes behind it. -/
def decode : List UInt8 → List Char × List UInt8
  | [] => ([], [])
  | b₀ :: r₀ =>
    if let some c := one? b₀ then push c (decode r₀)
    else match r₀ with
    | [] => ([], [b₀])
    | b₁ :: r₁ =>
      if let some c := two? b₀ b₁ then push c (decode r₁)
      else match r₁ with
      | [] => ([], [b₀, b₁])
      | b₂ :: r₂ =>
        if let some c := three? b₀ b₁ b₂ then push c (decode r₂)
        else match r₂ with
        | [] => ([], [b₀, b₁, b₂])
        | b₃ :: r₃ =>
          if let some c := four? b₀ b₁ b₂ b₃ then push c (decode r₃)
          else ([], b₀ :: b₁ :: b₂ :: b₃ :: r₃)

end LocaleMessage.Text.Utf8
