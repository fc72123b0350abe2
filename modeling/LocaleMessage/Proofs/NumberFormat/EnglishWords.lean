import Mathlib.Algebra.Group.Nat.Defs
import Mathlib.Data.List.GetD
import Mathlib.Tactic.SplitIfs
import LocaleMessage.NumberFormat

/-! English number words read back. A reader goes through the words one at a time and knows what
they mean by tables of its own; whatever number the words were written for, it comes to that number
again. So no two numbers are spelled alike, and no word is ever missing. -/
namespace LocaleMessage.NumberFormat.English

/-- What a word says about a number. -/
inductive WordMeaning where
  /-- A number from one to ninety-nine. -/
  | count (n : Nat)
  | hundred
  /-- A power of a thousand. -/
  | scale (s : Nat)
deriving DecidableEq, Repr

/-- The words below twenty. Zero is left out, because it is no part of another number. -/
def smallNumbers : List (String × Nat) :=
  [("one", 1), ("two", 2), ("three", 3), ("four", 4), ("five", 5), ("six", 6), ("seven", 7),
    ("eight", 8), ("nine", 9), ("ten", 10), ("eleven", 11), ("twelve", 12), ("thirteen", 13),
    ("fourteen", 14), ("fifteen", 15), ("sixteen", 16), ("seventeen", 17), ("eighteen", 18),
    ("nineteen", 19)]

def tensNumbers : List (String × Nat) :=
  [("twenty", 20), ("thirty", 30), ("forty", 40), ("fifty", 50), ("sixty", 60), ("seventy", 70),
    ("eighty", 80), ("ninety", 90)]

/-- The powers of a thousand that 64 bits reach, under their names on the short scale. -/
def scaleNumbers : List (String × Nat) :=
  [("thousand", 10 ^ 3), ("million", 10 ^ 6), ("billion", 10 ^ 9), ("trillion", 10 ^ 12),
    ("quadrillion", 10 ^ 15), ("quintillion", 10 ^ 18)]

/-- The parts of a text between the places where a character stands. -/
def pieces (between : Char) (text : String) : List String :=
  (text.toList.splitOn between).map String.ofList

/-- Reads the word for a number from one to ninety-nine: a unit or a teen, or tens with or without
a unit behind a hyphen. -/
def readBelowHundred (word : String) : Option Nat :=
  match pieces '-' word with
  | [word] => (smallNumbers.lookup word).or (tensNumbers.lookup word)
  | [first, second] => do
    let tens ← tensNumbers.lookup first
    let unit ← smallNumbers.lookup second
    if unit < 10 then some (tens + unit) else none
  | _ => none

def meaning? (word : String) : Option WordMeaning :=
  match readBelowHundred word with
  | some n => some (.count n)
  | none => if word = "hundred" then some .hundred else (scaleNumbers.lookup word).map .scale

/-- How far a number has been read: the sum of the finished parts, the scale of the last of them,
and the count that has begun behind it. -/
structure Reading where
  total : Nat
  last : Option Nat
  count : Nat
deriving DecidableEq, Repr

namespace Reading

def start : Reading := ⟨0, none, 0⟩

/-- Takes one word into account. A number below a hundred is added to full hundreds, a hundred
multiplies the one digit before it, and a scale multiplies the count before it, which is below a
thousand. Scales have to come in decreasing order. -/
def add (r : Reading) : WordMeaning → Option Reading
  | .count n => if r.count % 100 = 0 then some { r with count := r.count + n } else none
  | .hundred =>
    if 0 < r.count ∧ r.count < 10 then some { r with count := 100 * r.count } else none
  | .scale s =>
    if 0 < r.count ∧ r.count < 1000 ∧ ∀ l ∈ r.last, s < l then
      some ⟨r.total + r.count * s, some s, 0⟩
    else none

def read (r : Reading) (word : String) : Option Reading :=
  (meaning? word).bind r.add

/-- The number that has been read. -/
def value (r : Reading) : Nat :=
  r.total + r.count

end Reading

/-- Reads the words for a number. Zero has a word of its own, and there is no number without
words. -/
def readCardinal (words : List String) : Option Nat :=
  if words = ["zero"] then some 0
  else match words.foldlM Reading.read .start with
    | some r => if r.value = 0 then none else some r.value
    | none => none

/-- Reads a number in words, behind a minus if it is negative. -/
def readInteger (text : String) : Option Int :=
  match pieces ' ' text with
  | "minus" :: words => (readCardinal words).map fun n : Nat => -(n : Int)
  | words => (readCardinal words).map fun n : Nat => (n : Int)

/-- Words put together with a character between them fall into the same words again, if none of them
has it. No words at all are left out, since there is always a piece. -/
theorem pieces_intercalate {between : Char} {words : List String} (hWords : words ≠ [])
    (hBetween : ∀ word ∈ words, between ∉ word.toList) :
    pieces between ((String.singleton between).intercalate words) = words := by
  have hLists : ∀ l ∈ words.map String.toList, between ∉ l := by
    intro l hMem
    obtain ⟨word, hWord, rfl⟩ := List.mem_map.mp hMem
    exact hBetween word hWord
  rw [pieces, String.toList_intercalate, String.toList_singleton,
    List.splitOn_intercalate between hLists (by simpa using hWords), List.map_map]
  simp [Function.comp_def]

/-- Text of letters alone. -/
def IsLetters (word : String) : Prop :=
  ∀ c ∈ word.toList, c.isAlpha = true

theorem IsLetters.not_mem {word : String} (h : IsLetters word) {c : Char}
    (hc : c.isAlpha = false) : c ∉ word.toList := by
  intro hMem
  rw [h c hMem] at hc
  contradiction

theorem isLetters_small {n : Nat} (h : n < 20) : IsLetters (small n) := by
  have hAll : ∀ k < 20, (small k).toList.all Char.isAlpha = true := by decide +kernel
  exact List.all_eq_true.mp (hAll n h)

theorem isLetters_tens {n : Nat} (h : n < 10) : IsLetters (tens n) := by
  have hAll : ∀ k < 10, (tens k).toList.all Char.isAlpha = true := by decide +kernel
  exact List.all_eq_true.mp (hAll n h)

theorem lookup_small {n : Nat} (hPos : 0 < n) (h : n < 20) :
    smallNumbers.lookup (small n) = some n := by
  have hAll : ∀ k < 20, 0 < k → smallNumbers.lookup (small k) = some k := by decide +kernel
  exact hAll n h hPos

/-- The words for tens are told from those for units, and the reader's table has their numbers. -/
theorem lookup_tens {n : Nat} (hTwo : 2 ≤ n) (h : n < 10) :
    smallNumbers.lookup (tens n) = none ∧ tensNumbers.lookup (tens n) = some (10 * n) := by
  have hAll : ∀ k < 10, 2 ≤ k →
      smallNumbers.lookup (tens k) = none ∧ tensNumbers.lookup (tens k) = some (10 * k) := by
    decide +kernel
  exact hAll n h hTwo

theorem pieces_of_isLetters {word : String} (h : IsLetters word) : pieces '-' word = [word] := by
  have hPieces : pieces '-' ((String.singleton '-').intercalate [word]) = [word] :=
    pieces_intercalate (by simp) (by simpa using h.not_mem (by decide))
  simpa using hPieces

/-- The words for tens and a unit, which are joined by a hyphen. -/
theorem pieces_hyphen {first second : String} (hFirst : IsLetters first)
    (hSecond : IsLetters second) : pieces '-' (first ++ "-" ++ second) = [first, second] := by
  have hJoined : first ++ "-" ++ second = (String.singleton '-').intercalate [first, second] := by
    rw [String.intercalate_cons_cons, String.intercalate_singleton]
    rfl
  rw [hJoined]
  apply pieces_intercalate (by simp)
  intro word hMem
  simp only [List.mem_cons, List.not_mem_nil, or_false] at hMem
  rcases hMem with rfl | rfl
  · exact hFirst.not_mem (by decide)
  · exact hSecond.not_mem (by decide)

/-- Below a hundred a number is one word, with or without a hyphen in it, and the word reads as that
number. -/
theorem readBelowHundred_belowHundred {n : Nat} (hPos : 0 < n) (h : n < 100) :
    readBelowHundred (belowHundred n) = some n := by
  rw [belowHundred]
  split_ifs with hSmall hTens
  · rw [readBelowHundred, pieces_of_isLetters (isLetters_small hSmall)]
    simp only [lookup_small hPos hSmall, Option.some_or]
  · obtain ⟨hNone, hLookup⟩ := lookup_tens (n := n / 10) (by omega) (by omega)
    have hValue : 10 * (n / 10) = n := by omega
    rw [readBelowHundred, pieces_of_isLetters (isLetters_tens (by omega))]
    simp only [hNone, hLookup, Option.none_or, hValue]
  · obtain ⟨-, hLookup⟩ := lookup_tens (n := n / 10) (by omega) (by omega)
    have hUnit : n % 10 < 10 := Nat.mod_lt n (by omega)
    have hValue : 10 * (n / 10) + n % 10 = n := Nat.div_add_mod n 10
    rw [readBelowHundred, pieces_hyphen (isLetters_tens (by omega)) (isLetters_small (by omega))]
    simp only [hLookup, lookup_small (n := n % 10) (by omega) (by omega), Option.bind_eq_bind,
      Option.bind_some, if_pos hUnit, hValue]

theorem meaning?_belowHundred {n : Nat} (hPos : 0 < n) (h : n < 100) :
    meaning? (belowHundred n) = some (.count n) := by
  rw [meaning?, readBelowHundred_belowHundred hPos h]

/-- A number below a hundred is added behind full hundreds, which leave room for it. -/
theorem read_belowHundred {r : Reading} (hCount : r.count % 100 = 0) {n : Nat} (hPos : 0 < n)
    (h : n < 100) :
    r.read (belowHundred n) = some { r with count := r.count + n } := by
  rw [Reading.read, meaning?_belowHundred hPos h, Option.bind_some, Reading.add, if_pos hCount]

theorem foldlM_read_small {r : Reading} (hCount : r.count % 100 = 0) {n : Nat} (h : n < 100) :
    (if n = 0 then [] else [belowHundred n]).foldlM Reading.read r =
      some { r with count := r.count + n } := by
  split_ifs with hZero
  · simp [hZero]
  · simp [read_belowHundred hCount (Nat.pos_of_ne_zero hZero) h]

/-- The words for a number below a thousand leave that number as the count. -/
theorem foldlM_read_belowThousand {r : Reading} (hCount : r.count = 0) {n : Nat} (h : n < 1000) :
    (belowThousand n).foldlM Reading.read r = some { r with count := n } := by
  rw [belowThousand, List.foldlM_append]
  by_cases hSmall : n < 100
  · have hMod : n % 100 = n := Nat.mod_eq_of_lt hSmall
    rw [if_pos hSmall, List.foldlM_nil, hMod, pure_bind,
      foldlM_read_small (by simp [hCount]) hSmall]
    simp [hCount]
  · have hDigit : 0 < n / 100 ∧ n / 100 < 10 := by omega
    have hWord : small (n / 100) = belowHundred (n / 100) := by
      rw [belowHundred, if_pos (by omega)]
    have hFirst : r.read (small (n / 100)) = some { r with count := n / 100 } := by
      rw [hWord, read_belowHundred (by simp [hCount]) hDigit.1 (by omega), hCount, Nat.zero_add]
    have hMeaning : meaning? "hundred" = some .hundred := by decide
    have hHundreds : [small (n / 100), "hundred"].foldlM Reading.read r =
        some { r with count := 100 * (n / 100) } := by
      rw [List.foldlM_cons, hFirst, Option.bind_eq_bind, Option.bind_some, List.foldlM_cons,
        Reading.read, hMeaning, Option.bind_some, Reading.add, if_pos hDigit]
      rfl
    rw [if_neg hSmall, hHundreds]
    simp only [Option.bind_eq_bind, Option.bind_some]
    rw [foldlM_read_small (by simp) (by omega)]
    simp only [Nat.div_add_mod]

/-- Scales by which every number below a bound is counted in thousands at most: each is at least
the thousandth part of what the ones before it leave. -/
def Scales : Nat → List (Nat × String) → Prop
  | bound, [] => bound ≤ 1000
  | bound, (scale, name) :: rest =>
    bound ≤ 1000 * scale ∧ scale < bound ∧ meaning? name = some (.scale scale) ∧ Scales scale rest

/-- The scales that are written by reach beyond all numbers of 64 bits, and the reader knows each of
their names. -/
theorem scales_scales : Scales (10 ^ 21) scales := by
  simp only [scales, Scales]
  decide +kernel

section Scales

variable {bound n : Nat} {table : List (Nat × String)}

/-- What is counted in a scale is below a thousand, so it is written without a scale of its own. -/
theorem div_lt_of_scales {scale : Nat} (hBound : bound ≤ 1000 * scale) (hn : n < bound) :
    n / scale < 1000 :=
  Nat.div_lt_of_lt_mul (by rw [Nat.mul_comm]; omega)

/-- The words for a number add that number to the finished parts and the count, where the last
scale before them leaves room for it. The induction is on the table of scales, from the greatest
one down. -/
theorem foldlM_read_scaled (hTable : Scales bound table) (hn : n < bound) {r : Reading}
    (hCount : r.count = 0) (hLast : ∀ l ∈ r.last, bound ≤ l) :
    ∃ r', (scaled table n).foldlM Reading.read r = some r' ∧ r'.value = r.total + n := by
  induction table generalizing bound n r with
  | nil =>
      exact ⟨_, foldlM_read_belowThousand hCount (Nat.lt_of_lt_of_le hn hTable), rfl⟩
  | cons first rest ih =>
      obtain ⟨scale, name⟩ := first
      obtain ⟨hBound, hScale, hMeaning, hRest⟩ := hTable
      rw [scaled]
      by_cases hBelow : n < scale
      · rw [if_pos hBelow]
        exact ih hRest hBelow hCount fun l hl => Nat.le_trans (Nat.le_of_lt hScale) (hLast l hl)
      · have hPos : 0 < scale := by omega
        have hQuotient : 0 < n / scale := Nat.div_pos (by omega) hPos
        have hThousand : n / scale < 1000 := div_lt_of_scales hBound hn
        have hDecreasing : ∀ l ∈ r.last, scale < l := fun l hl => by
          have := hLast l hl
          omega
        have hAdd : Reading.read { r with count := n / scale } name =
            some ⟨r.total + n / scale * scale, some scale, 0⟩ := by
          rw [Reading.read, hMeaning, Option.bind_some, Reading.add,
            if_pos ⟨hQuotient, hThousand, hDecreasing⟩]
        obtain ⟨r', hRead, hValue⟩ := ih (n := n % scale)
          (r := ⟨r.total + n / scale * scale, some scale, 0⟩) hRest (Nat.mod_lt n hPos) rfl
          (by simp)
        refine ⟨r', ?_, ?_⟩
        · rw [if_neg hBelow, List.foldlM_append, foldlM_read_belowThousand hCount hThousand,
            Option.bind_eq_bind, Option.bind_some, List.foldlM_cons, hAdd,
            Option.bind_eq_bind, Option.bind_some, hRead]
        · rw [hValue, Nat.add_assoc, Nat.div_add_mod']

end Scales

/-- The words for a number, one by one. -/
def cardinalWords (n : Nat) : List String :=
  if n = 0 then ["zero"] else scaled scales n

theorem cardinal_eq (n : Nat) : cardinal n = " ".intercalate (cardinalWords n) := by
  rw [cardinal, cardinalWords]
  split_ifs
  · rfl
  · rfl

/-- The words for a number are read back as that number, zero by its own word. The bound is a
thousand times the greatest scale. -/
theorem readCardinal_cardinalWords {n : Nat} (h : n < 10 ^ 21) :
    readCardinal (cardinalWords n) = some n := by
  by_cases hZero : n = 0
  · rw [cardinalWords, if_pos hZero, readCardinal, if_pos rfl, hZero]
  · obtain ⟨r, hRead, hValue⟩ :=
      foldlM_read_scaled scales_scales h (r := .start) rfl (by simp [Reading.start])
    have hTotal : r.value = n := by simpa [Reading.start] using hValue
    have hWords : scaled scales n ≠ ["zero"] := by
      intro hZeroWord
      rw [hZeroWord] at hRead
      have hNone : ["zero"].foldlM Reading.read .start = none := by decide
      rw [hNone] at hRead
      contradiction
    rw [cardinalWords, if_neg hZero, readCardinal, if_neg hWords, hRead]
    simp only [hTotal, if_neg hZero]

/-- No number has a minus for its first word, nor has it no words at all. -/
theorem ne_minus_of_readCardinal {words : List String} {n : Nat}
    (h : readCardinal words = some n) : words ≠ [] ∧ words.head? ≠ some "minus" := by
  constructor
  · rintro rfl
    have hNone : readCardinal [] = none := by decide
    rw [hNone] at h
    contradiction
  · intro hHead
    obtain ⟨rest, rfl⟩ := List.head?_eq_some_iff.mp hHead
    have hMeaning : meaning? "minus" = none := by decide
    simp [readCardinal, List.foldlM_cons, Reading.read, hMeaning] at h

theorem no_blank_belowHundred {n : Nat} (h : n < 100) : ' ' ∉ (belowHundred n).toList := by
  have hSmall {k : Nat} (hk : k < 20) : ' ' ∉ (small k).toList :=
    (isLetters_small hk).not_mem (by decide)
  have hTens : ' ' ∉ (tens (n / 10)).toList := (isLetters_tens (by omega)).not_mem (by decide)
  rw [belowHundred]
  split_ifs with hFew
  · exact hSmall hFew
  · exact hTens
  · simp [hTens, hSmall (k := n % 10) (by omega)]

theorem no_blank_belowThousand {n : Nat} (h : n < 1000) :
    ∀ word ∈ belowThousand n, ' ' ∉ word.toList := by
  intro word hMem
  rw [belowThousand, List.mem_append] at hMem
  rcases hMem with hFirst | hSecond
  · split_ifs at hFirst with hFew
    · simp at hFirst
    · simp only [List.mem_cons, List.not_mem_nil, or_false] at hFirst
      rcases hFirst with rfl | rfl
      · exact (isLetters_small (by omega)).not_mem (by decide)
      · decide
  · split_ifs at hSecond with hNone
    · simp at hSecond
    · obtain rfl := List.mem_singleton.mp hSecond
      exact no_blank_belowHundred (by omega)

/-- No word of a number has a blank in it, if no name of a scale has. The induction is on the table,
as for reading. -/
theorem no_blank_scaled {table : List (Nat × String)} {bound n : Nat}
    (hTable : Scales bound table) (hn : n < bound)
    (hNames : ∀ s ∈ table, ' ' ∉ s.2.toList) :
    ∀ word ∈ scaled table n, ' ' ∉ word.toList := by
  induction table generalizing bound n with
  | nil => exact no_blank_belowThousand (Nat.lt_of_lt_of_le hn hTable)
  | cons first rest ih =>
      obtain ⟨scale, name⟩ := first
      obtain ⟨hBound, -, -, hRest⟩ := hTable
      have hOthers : ∀ s ∈ rest, ' ' ∉ s.2.toList := fun s hs => hNames s (by simp [hs])
      rw [scaled]
      split_ifs with hBelow
      · exact ih hRest hBelow hOthers
      · have hPos : 0 < scale := by omega
        intro word hMem
        rw [List.mem_append, List.mem_cons] at hMem
        rcases hMem with hCount | hName | hBehind
        · exact no_blank_belowThousand (div_lt_of_scales hBound hn) word hCount
        · exact hName ▸ hNames (scale, name) (by simp)
        · exact ih hRest (Nat.mod_lt n hPos) hOthers word hBehind

theorem no_blank_cardinalWords {n : Nat} (h : n < 10 ^ 21) :
    ∀ word ∈ cardinalWords n, ' ' ∉ word.toList := by
  rw [cardinalWords]
  split_ifs
  · decide
  · exact no_blank_scaled scales_scales h (by decide)

theorem pieces_blank {words : List String} (hWords : words ≠ [])
    (hBlank : ∀ word ∈ words, ' ' ∉ word.toList) : pieces ' ' (" ".intercalate words) = words :=
  pieces_intercalate hWords hBlank

section Texts

variable {n : Nat} (h : n < 10 ^ 21)
include h

/-- A number that is not negative is read back from its text; its first word is never taken for the
minus. -/
theorem readInteger_cardinal : readInteger (cardinal n) = some (n : Int) := by
  have hRead := readCardinal_cardinalWords h
  obtain ⟨hWords, hMinus⟩ := ne_minus_of_readCardinal hRead
  rw [readInteger, cardinal_eq, pieces_blank hWords (no_blank_cardinalWords h)]
  split
  · next hPieces => simp [hPieces] at hMinus
  · rw [hRead, Option.map_some]

theorem readInteger_minus_cardinal :
    readInteger ("minus " ++ cardinal n) = some (-(n : Int)) := by
  have hRead := readCardinal_cardinalWords h
  have hWords := (ne_minus_of_readCardinal hRead).1
  have hText : "minus " ++ cardinal n = " ".intercalate ("minus" :: cardinalWords n) := by
    rw [String.intercalate_cons_of_ne_nil hWords, cardinal_eq]
    rfl
  have hBlank : ∀ word ∈ "minus" :: cardinalWords n, ' ' ∉ word.toList := by
    intro word hMem
    rcases List.mem_cons.mp hMem with rfl | hRest
    · decide
    · exact no_blank_cardinalWords h word hRest
  rw [readInteger, hText, pieces_blank (by simp) hBlank]
  simp only [hRead, Option.map_some]

end Texts

/-- The greatest scale that a number reaches, a hundred at least. -/
def scaleOf (n : Nat) : Nat × String :=
  (scales.find? fun s => s.1 ≤ n).getD (100, "hundred")

/-- A number of a hundred or more is counted in something that is greater than one and not greater
than the number, so the recursion comes to an end. -/
theorem scaleOf_bounds {n : Nat} (h : 100 ≤ n) : 1 < (scaleOf n).1 ∧ (scaleOf n).1 ≤ n := by
  rw [scaleOf]
  cases hFind : scales.find? fun s => s.1 ≤ n with
  | none => exact ⟨by decide, h⟩
  | some s =>
      have hAll : ∀ s ∈ scales, 1 < s.1 := by decide
      exact ⟨hAll s (List.mem_of_find?_eq_some hFind), by simpa using List.find?_some hFind⟩

/-- The words for a number in one recursion, if no word is missing: a number is counted in the
greatest scale that it reaches, and the count and the rest are spelled in the same way. -/
def spell? (n : Nat) : Option (List String) :=
  if n < 20 then smallWords[n]?.map ([·])
  else if n < 100 then
    if n % 10 = 0 then tensWords[n / 10 - 2]?.map ([·])
    else tensWords[n / 10 - 2]?.bind fun ten =>
      smallWords[n % 10]?.map fun unit => [ten ++ "-" ++ unit]
  else
    (spell? (n / (scaleOf n).1)).bind fun count =>
      if n % (scaleOf n).1 = 0 then some (count ++ [(scaleOf n).2])
      else (spell? (n % (scaleOf n).1)).map fun rest => count ++ (scaleOf n).2 :: rest
termination_by n
decreasing_by
  · exact Nat.div_lt_self (by omega) (scaleOf_bounds (by omega)).1
  · have hScale := scaleOf_bounds (n := n) (by omega)
    exact Nat.lt_of_lt_of_le (Nat.mod_lt n (by omega)) hScale.2

section Recursion

variable {n : Nat}

theorem scaled_of_forall_lt {table : List (Nat × String)} (h : ∀ s ∈ table, n < s.1) :
    scaled table n = belowThousand n := by
  induction table with
  | nil => rfl
  | cons first rest ih =>
      rw [scaled, if_pos (h first (by simp)), ih fun s hs => h s (by simp [hs])]

theorem cardinalWords_of_lt_thousand (hPos : 0 < n) (h : n < 1000) :
    cardinalWords n = belowThousand n := by
  have hAll : ∀ s ∈ scales, 1000 ≤ s.1 := by decide
  rw [cardinalWords, if_neg (by omega), scaled_of_forall_lt]
  exact fun s hs => Nat.lt_of_lt_of_le h (hAll s hs)

theorem cardinalWords_of_lt_hundred (h : n < 100) : cardinalWords n = [belowHundred n] := by
  by_cases hZero : n = 0
  · subst hZero
    decide
  · rw [cardinalWords_of_lt_thousand (by omega) (by omega), belowThousand, if_pos h,
      Nat.mod_eq_of_lt h, if_neg hZero, List.nil_append]

/-- A number that reaches a scale is written as its count, the scale and the rest, in whatever
scales the rest reaches. -/
theorem scaled_of_find? {table : List (Nat × String)} (hPos : ∀ s ∈ table, 0 < s.1) {scale : Nat}
    {name : String} (h : table.find? (fun s => s.1 ≤ n) = some (scale, name)) :
    scaled table n = belowThousand (n / scale) ++ name :: scaled table (n % scale) := by
  induction table with
  | nil => simp at h
  | cons first rest ih =>
      obtain ⟨a, aName⟩ := first
      by_cases hReached : a ≤ n
      · obtain ⟨rfl, rfl⟩ : a = scale ∧ aName = name := by
          simpa [List.find?_cons, hReached] using h
        have hMod : n % a < a := Nat.mod_lt n (hPos (a, aName) (by simp))
        rw [scaled, if_neg (by omega), scaled, if_pos hMod]
      · have hRest : rest.find? (fun s => s.1 ≤ n) = some (scale, name) := by
          simpa [List.find?_cons, hReached] using h
        have hMod : n % scale < a := Nat.lt_of_le_of_lt (Nat.mod_le n scale) (by omega)
        rw [scaled, if_pos (by omega), ih (fun s hs => hPos s (by simp [hs])) hRest, scaled,
          if_pos hMod]

theorem div_lt_of_find? {table : List (Nat × String)} {bound scale : Nat} {name : String}
    (hTable : Scales bound table) (hn : n < bound)
    (h : table.find? (fun s => s.1 ≤ n) = some (scale, name)) : n / scale < 1000 := by
  induction table generalizing bound with
  | nil => simp at h
  | cons first rest ih =>
      obtain ⟨a, aName⟩ := first
      obtain ⟨hBound, -, -, hRest⟩ := hTable
      by_cases hReached : a ≤ n
      · obtain ⟨rfl, rfl⟩ : a = scale ∧ aName = name := by
          simpa [List.find?_cons, hReached] using h
        exact div_lt_of_scales hBound hn
      · exact ih hRest (by omega) (by simpa [List.find?_cons, hReached] using h)

/-- From a hundred on, the words for a number are those for the count, the scale and the rest. A
rest of zero has no words, though zero alone has one. -/
theorem cardinalWords_scaleOf (hLeast : 100 ≤ n) (h : n < 10 ^ 21) :
    cardinalWords n = cardinalWords (n / (scaleOf n).1) ++ (scaleOf n).2 ::
      if n % (scaleOf n).1 = 0 then [] else cardinalWords (n % (scaleOf n).1) := by
  rw [scaleOf]
  cases hFind : scales.find? fun s => s.1 ≤ n with
  | none =>
      have hBelow : n < 1000 := by
        have hNone := List.find?_eq_none.mp hFind (1000, "thousand") (by decide)
        simpa using hNone
      have hDigit : cardinalWords (n / 100) = [small (n / 100)] := by
        rw [cardinalWords_of_lt_hundred (by omega), belowHundred, if_pos (by omega)]
      have hRest : cardinalWords (n % 100) = [belowHundred (n % 100)] :=
        cardinalWords_of_lt_hundred (by omega)
      rw [Option.getD_none, cardinalWords_of_lt_thousand (by omega) hBelow, belowThousand,
        if_neg (by omega), hDigit, hRest]
      rfl
  | some s =>
      obtain ⟨scale, name⟩ := s
      have hReached : scale ≤ n := by simpa using List.find?_some hFind
      have hPos : ∀ s ∈ scales, 0 < s.1 := by decide
      have hScale : 0 < scale := hPos _ (List.mem_of_find?_eq_some hFind)
      have hCount : 0 < n / scale := Nat.div_pos hReached hScale
      have hThousand : n / scale < 1000 := div_lt_of_find? scales_scales h hFind
      have hRest : scaled scales (n % scale) =
          if n % scale = 0 then [] else cardinalWords (n % scale) := by
        split_ifs with hNone
        · rw [hNone]
          decide
        · rw [cardinalWords, if_neg hNone]
      rw [Option.getD_some, cardinalWords_of_lt_thousand hCount hThousand, ← hRest,
        ← scaled_of_find? hPos hFind, cardinalWords, if_neg (by omega)]

theorem getElem?_smallWords (h : n < 20) : smallWords[n]? = some (small n) := by
  have hLength : n < smallWords.length := h
  rw [small, List.getD_eq_getElem _ _ hLength, List.getElem?_eq_getElem hLength]

theorem getElem?_tensWords (h : n < 10) : tensWords[n - 2]? = some (tens n) := by
  have hLength : n - 2 < tensWords.length := by
    simp only [tensWords, List.length_cons, List.length_nil]
    omega
  rw [tens, List.getD_eq_getElem _ _ hLength, List.getElem?_eq_getElem hLength]

/-- No look-up of the recursion fails, and it comes to the words that are written. -/
theorem spell?_eq (h : n < 10 ^ 21) : spell? n = some (cardinalWords n) := by
  induction n using Nat.strongRecOn with
  | ind n ih =>
      by_cases hHundred : n < 100
      · rw [spell?, cardinalWords_of_lt_hundred hHundred, belowHundred]
        split_ifs with hSmall hTens
        · rw [getElem?_smallWords hSmall, Option.map_some]
        · rw [getElem?_tensWords (by omega), Option.map_some]
        · rw [getElem?_tensWords (by omega), getElem?_smallWords (by omega), Option.bind_some,
            Option.map_some]
      · have hScale := scaleOf_bounds (n := n) (by omega)
        have hCount : n / (scaleOf n).1 < n := Nat.div_lt_self (by omega) hScale.1
        have hRest : n % (scaleOf n).1 < n :=
          Nat.lt_of_lt_of_le (Nat.mod_lt n (by omega)) hScale.2
        rw [spell?, if_neg (by omega), if_neg hHundred, ih _ hCount (by omega), Option.bind_some,
          cardinalWords_scaleOf (by omega) h]
        split_ifs with hNone
        · rfl
        · rw [ih _ hRest (by omega), Option.map_some]

end Recursion

/-- Every integer of 64 bits is within the reach of the scales, the least one included. -/
theorem natAbs_toInt_lt (i : Int64) : i.toInt.natAbs < 10 ^ 21 := by
  have hLow : -9223372036854775808 ≤ i.toInt := i.minValue_le_toInt
  have hHigh : i.toInt ≤ 9223372036854775807 := i.toInt_le
  omega

/-- In English an integer is written as its words, behind a minus where it is negative. -/
theorem format_spellout (i : Int64) :
    format (.integer i) "en" .spellout =
      if i.toInt < 0 then "minus " ++ cardinal i.toInt.natAbs else cardinal i.toInt.natAbs := by
  have hEnglish : Locale.language "en" = "en" := by decide
  simp [format, hEnglish, spelled, Number.isNegative]

/-- English words are read back as the integer they were written for. On the way to them every
look-up in a list of words succeeds, for every number of 64 bits, and no two of these numbers are
spelled alike. -/
theorem spellout_reads_back :
    (∀ i : Int64, readInteger (format (.integer i) "en" .spellout) = some i.toInt) ∧
      (∀ n : UInt64, (spell? n.toNat).map (" ".intercalate ·) = some (cardinal n.toNat)) ∧
      Function.Injective fun n : UInt64 => cardinal n.toNat := by
  have hWord (n : UInt64) : n.toNat < 10 ^ 21 := by
    have := n.toNat_lt
    omega
  refine ⟨?_, ?_, ?_⟩
  · intro i
    rw [format_spellout]
    split_ifs with hNegative
    · rw [readInteger_minus_cardinal (natAbs_toInt_lt i)]
      congr 1
      omega
    · rw [readInteger_cardinal (natAbs_toInt_lt i)]
      congr 1
      omega
  · intro n
    rw [spell?_eq (hWord n), Option.map_some, cardinal_eq]
  · intro m n hSame
    have hRead := readInteger_cardinal (hWord n)
    rw [← show cardinal m.toNat = cardinal n.toNat from hSame, readInteger_cardinal (hWord m)]
      at hRead
    apply UInt64.toNat_inj.mp
    exact Int.ofNat_inj.mp (Option.some.inj hRead)

/-- Scales in increasing order, hundreds of a teen and a second unit are refused. -/
example : readInteger "two million one thousand" = some 2001000 ∧
    readInteger "one thousand two million" = none ∧ readInteger "eleven hundred" = none ∧
    readInteger "one two" = none := by
  decide

end LocaleMessage.NumberFormat.English
