import LocaleMessage.NumberFormat
import LocaleMessage.Proofs.Binary64.Exact
import LocaleMessage.Proofs.Binary64.Rounding
import LocaleMessage.Proofs.Decimal

/-! Spans of time read back. The text of a span has a sign, a count of hours or minutes, and behind
it fields of two digits that count to sixty. A reader that knows only that the next field is the
sixtieth part of the one before comes to the seconds again. Floating-point numbers are rounded to
whole seconds first, and seconds beyond 64 bits are cut off there. -/
namespace LocaleMessage

/-- Beyond either end of the range the end itself is taken, and within it nothing changes. -/
theorem toInt_int64Nearest (i : Int) :
    (int64Nearest i).toInt = max (-2 ^ 63) (min i (2 ^ 63 - 1)) := by
  unfold int64Nearest
  split_ifs with hLow hHigh
  · have hLeast : Int64.minValue.toInt = -2 ^ 63 := rfl
    omega
  · have hMost : Int64.maxValue.toInt = 2 ^ 63 - 1 := rfl
    omega
  · rw [Int64.toInt_ofInt_of_le (by omega) (by omega)]
    omega

/-- Rounding to an integer takes the nearest one, and of two the one away from zero. -/
theorem Binary64.round?_eq_some_iff {f : Binary64} {v : Rat} (h : f.value? = some v) {k : Int} :
    f.round? = some k ↔ Rounding.IsNearestAway v k := by
  obtain ⟨n, hRound, hNearest⟩ : ∃ n, f.round? = some n ∧ Rounding.IsNearestAway v n := by
    match f with
    | .finite negative x =>
        obtain rfl : (if negative then -x.value else x.value) = v := Option.some.inj h
        have hAway := Rounding.halfUp_isNearestAway x.value_nonneg
        cases negative with
        | false => exact ⟨_, rfl, hAway⟩
        | true => exact ⟨_, rfl, hAway.neg⟩
  rw [hRound, Option.some_inj]
  constructor
  · rintro rfl
    exact hNearest
  · exact hNearest.unique

namespace NumberFormat

/-- Reads fields between colons, each the sixtieth part of the one before it. How many fields there
are is not asked. -/
def readClock (text : List Char) : Nat :=
  (text.splitOn ':').foldl (fun n field => 60 * n + digitsValue field) 0

/-- Reads a span of time behind its sign. A sign in front of zero would make no difference. -/
def readDuration : List Char → Int
  | '-' :: text => -(readClock text : Int)
  | text => readClock text

/-- A number in digits without zeros in front. Zero itself is one digit. -/
structure IsCount (text : List Char) : Prop where
  nonempty : text ≠ []
  isDigit : ∀ c ∈ text, c.isDigit = true
  head : text.head? = some '0' → text = ['0']

/-- A number below sixty in two digits, so that fields behind the first one are never ambiguous. -/
structure IsSixtieth (text : List Char) : Prop where
  length : text.length = 2
  isDigit : ∀ c ∈ text, c.isDigit = true
  value_lt : digitsValue text < 60

/-- The text shows a number of seconds: as minutes and seconds below one hour, and from there on
with the hours in front. -/
inductive IsClock : List Char → Nat → Prop where
  | belowHour {m s : List Char} (minutes : IsCount m) (below : digitsValue m < 60)
      (seconds : IsSixtieth s) : IsClock (m ++ ':' :: s) (60 * digitsValue m + digitsValue s)
  | fromHour {h m s : List Char} (hours : IsCount h) (one_le : 1 ≤ digitsValue h)
      (minutes : IsSixtieth m) (seconds : IsSixtieth s) :
      IsClock (h ++ ':' :: (m ++ ':' :: s))
        (3600 * digitsValue h + 60 * digitsValue m + digitsValue s)

/-- The text shows a span of time, behind a minus exactly if it is negative. The least integer has
no positive counterpart but is a span of time as well. -/
def IsDuration (text : List Char) (seconds : Int) : Prop :=
  ∃ clock, text = (if seconds < 0 then ['-'] else []) ++ clock ∧ IsClock clock seconds.natAbs

theorem not_mem_of_isDigit {c : Char} (hc : c.isDigit = false) {text : List Char}
    (h : ∀ d ∈ text, d.isDigit = true) : c ∉ text := by
  intro hMem
  rw [h c hMem] at hc
  contradiction

theorem IsSixtieth.splitOn {s : List Char} (h : IsSixtieth s) : s.splitOn ':' = [s] :=
  List.splitOn_eq_singleton (not_mem_of_isDigit (by decide) h.isDigit)

/-- A clock is read as the seconds that it shows, with two fields or with three. -/
theorem IsClock.read {text : List Char} {n : Nat} (h : IsClock text n) : readClock text = n := by
  unfold readClock
  cases h with
  | belowHour minutes below seconds =>
      rw [List.splitOn_append_cons_self_of_not_mem
          (not_mem_of_isDigit (by decide) minutes.isDigit), seconds.splitOn]
      simp
  | fromHour hours one_le minutes seconds =>
      rw [List.splitOn_append_cons_self_of_not_mem (not_mem_of_isDigit (by decide) hours.isDigit),
        List.splitOn_append_cons_self_of_not_mem (not_mem_of_isDigit (by decide) minutes.isDigit),
        seconds.splitOn]
      simp only [List.foldl_cons, List.foldl_nil]
      omega

/-- A clock shows digits first, so that no sign can be taken for a part of it, nor a part of it for
a sign. -/
theorem IsClock.head_ne {text : List Char} {n : Nat} (h : IsClock text n) :
    text.head? ≠ some '-' := by
  have hCount {count : List Char} (hCount : IsCount count) (rest : List Char) :
      (count ++ rest).head? ≠ some '-' := by
    obtain ⟨first, others, rfl⟩ := List.exists_cons_of_ne_nil hCount.nonempty
    have hFirst := hCount.isDigit first (by simp)
    rintro hHead
    obtain rfl : first = '-' := Option.some.inj hHead
    contradiction
  cases h with
  | belowHour minutes _ _ => exact hCount minutes _
  | fromHour hours _ _ _ => exact hCount hours _

theorem IsDuration.read {text : List Char} {seconds : Int} (h : IsDuration text seconds) :
    readDuration text = seconds := by
  obtain ⟨clock, rfl, hClock⟩ := h
  split_ifs with hNegative
  · rw [List.singleton_append, readDuration, hClock.read]
    omega
  · have hHead := hClock.head_ne
    rw [List.nil_append, readDuration, hClock.read]
    · omega
    · rintro rest rfl
      exact hHead rfl

/-- Digits of a number have no zero in front but that of zero itself, so the first field of a clock
has no padding. -/
theorem isCount_decimalDigits (n : Nat) : IsCount (decimalDigits n) := by
  refine ⟨decimalDigits_ne_nil n, fun c => isDigit_of_mem_decimalDigits, ?_⟩
  induction n using Nat.strongRecOn with
  | ind n ih =>
      intro hHead
      by_cases hShort : n < 10
      · have hDigit : decimalDigits n = [n.digitChar] := Nat.toDigits_of_lt_base hShort
        rw [hDigit] at hHead ⊢
        exact congrArg (fun c => [c]) (Option.some.inj hHead)
      · have hFront : decimalDigits n = decimalDigits (n / 10) ++ [(n % 10).digitChar] :=
          Nat.toDigits_of_base_le (by decide) (by omega)
        rw [hFront, List.head?_append_of_ne_nil _ (decimalDigits_ne_nil _)] at hHead
        have hZero : digitsValue (decimalDigits (n / 10)) = digitsValue ['0'] :=
          congrArg digitsValue (ih (n / 10) (by omega) hHead)
        rw [digitsValue_decimalDigits] at hZero
        have hNone : n / 10 = 0 := hZero
        omega

theorem isSixtieth_paddedDigits {n : Nat} (h : n < 60) : IsSixtieth (paddedDigits 2 n) where
  length := length_paddedDigits (by decide) (by omega)
  isDigit _ := isDigit_of_mem_paddedDigits
  value_lt := by rwa [digitsValue_paddedDigits]

theorem isClock_clock (n : Nat) : IsClock (clock n) n := by
  have hSeconds := isSixtieth_paddedDigits (Nat.mod_lt n (by decide : 0 < 60))
  have hMinute : n % 3600 / 60 < 60 := by omega
  dsimp only [clock]
  split_ifs with hHours
  · have hClock := IsClock.belowHour (isCount_decimalDigits (n % 3600 / 60)) (by simpa) hSeconds
    simp only [digitsValue_decimalDigits, digitsValue_paddedDigits] at hClock
    convert hClock using 1
    omega
  · have hSome : 1 ≤ n / 3600 := by omega
    have hClock := IsClock.fromHour (isCount_decimalDigits (n / 3600)) (by simpa)
      (isSixtieth_paddedDigits hMinute) hSeconds
    simp only [digitsValue_decimalDigits, digitsValue_paddedDigits] at hClock
    convert hClock using 1
    omega

/-- A number with whole seconds is written as a span of time in every locale. -/
theorem isDuration_format {n : Number} {i : Int64} (h : wholeSeconds? n = some i)
    (locale : String) : IsDuration (format n locale .duration).toList i.toInt := by
  refine ⟨clock i.toInt.natAbs, ?_, isClock_clock _⟩
  rw [format, String.toList_ofList, duration, h]

/-- The style for durations writes integers as the spans of time that they are, the least one
included, and finite floating-point numbers as the spans they are rounded to, a half going away from
zero and all beyond 64 bits cut off. No two integers give the same text. -/
theorem format_duration_isDuration (locale : String) :
    (∀ i : Int64, IsDuration (format (.integer i) locale .duration).toList i.toInt) ∧
      (∀ f v, Binary64.value? f = some v → ∃ k : Int, Rounding.IsNearestAway v k ∧
        IsDuration (format (.decimal f) locale .duration).toList
          (max (-2 ^ 63) (min k (2 ^ 63 - 1)))) ∧
      Function.Injective fun i : Int64 => format (.integer i) locale .duration := by
  have hInteger (i : Int64) : IsDuration (format (.integer i) locale .duration).toList i.toInt :=
    isDuration_format rfl locale
  refine ⟨hInteger, ?_, ?_⟩
  · intro f v hValue
    obtain ⟨k, hRound⟩ : ∃ k, f.round? = some k := by
      match f with
      | .finite _ _ => exact ⟨_, rfl⟩
    refine ⟨k, (Binary64.round?_eq_some_iff hValue).mp hRound, ?_⟩
    rw [← toInt_int64Nearest]
    apply isDuration_format
    rw [wholeSeconds?, hRound, Option.map_some]
  · intro i j hSame
    apply Int64.toInt_inj.mp
    rw [← (hInteger i).read, ← (hInteger j).read]
    exact congrArg (fun text => readDuration text.toList) hSame

/-- Half a second below an hour, which is rounded away from zero to the full hour. -/
theorem format_duration_isDuration_half :
    let f : Binary64 := .finite true ⟨7199 * 2 ^ 40, -41, by decide⟩
    f.value? = some (-7199 / 2) ∧ format (.decimal f) "en" .duration = "-1:00:00" ∧
      ∃ k : Int, Rounding.IsNearestAway (-7199 / 2) k ∧
        IsDuration "-1:00:00".toList (max (-2 ^ 63) (min k (2 ^ 63 - 1))) := by
  intro f
  have hValue : f.value? = some (-7199 / 2) := by decide +kernel
  have hText : format (.decimal f) "en" .duration = "-1:00:00" := by decide +kernel
  obtain ⟨k, hNearest, hDuration⟩ := (format_duration_isDuration "en").2.1 f (-7199 / 2) hValue
  rw [hText] at hDuration
  exact ⟨hValue, hText, k, hNearest, hDuration⟩

/-- Seconds beyond 64 bits are cut off. -/
example : format (.decimal (.finite true ⟨2 ^ 52, 971, by decide⟩)) "en" .duration =
    "-2562047788015215:30:08" := by
  decide +kernel

end NumberFormat

end LocaleMessage
