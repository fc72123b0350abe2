import Mathlib.Data.List.TakeWhile
import Mathlib.Tactic.SplitIfs
import LocaleMessage.Calendar.Reading
import LocaleMessage.Proofs.Text.Blank

/-! What dates and date-times leave of a text. White space in front makes no difference to them, the
last character that they take is a digit, and behind the year there is a hyphen. -/
namespace LocaleMessage.Calendar.Reader

variable {α β : Type}

/-- Reading one thing behind another succeeds if both do, the second one on what the first one left.
Nothing is tried a second time. -/
theorem bind_eq_some {reader : Reader α} {next : α → Reader β} {text : List Char} {b : β}
    {rest : List Char} :
    (reader >>= next) text = some (b, rest) ↔
      ∃ a middle, reader text = some (a, middle) ∧ next a middle = some (b, rest) := by
  change (reader text >>= fun read => next read.1 read.2) = some (b, rest) ↔ _
  rw [Option.bind_eq_bind, Option.bind_eq_some_iff, Prod.exists]

theorem bind_of_eq_some {reader : Reader α} {next : α → Reader β} {text rest : List Char} {a : α}
    (h : reader text = some (a, rest)) : (reader >>= next) text = next a rest := by
  change (reader text >>= fun read => next read.1 read.2) = _
  rw [h]
  rfl

theorem pure_eq_some {a b : α} {text rest : List Char} :
    (pure a : Reader α) text = some (b, rest) ↔ a = b ∧ text = rest := by
  change some (a, text) = some (b, rest) ↔ _
  rw [Option.some_inj, Prod.mk.injEq]

theorem char_eq_some {c : Char} {text rest : List Char} {a : Unit} :
    char c text = some (a, rest) ↔ text = c :: rest := by
  cases text with
  | nil => simp [char]
  | cons d ds =>
      rw [char]
      split_ifs with hSame
      · simp [hSame]
      · simp [hSame]

theorem spaces_bind (next : Unit → Reader β) (text : List Char) :
    (spaces >>= next) text = next () (Text.trimLeft text) :=
  rfl

theorem get_bind (next : List Char → Reader β) (text : List Char) :
    ((get : Reader (List Char)) >>= next) text = next text text :=
  rfl

/-- Digits that are taken off a text are at least one, and all of them are digits. -/
theorem digits_eq_some {most : Nat} {text ds rest : List Char}
    (h : digits most text = some (ds, rest)) :
    ds ≠ [] ∧ (∀ c ∈ ds, c.isDigit = true) ∧ text = ds ++ rest := by
  rw [digits] at h
  split_ifs at h with hEmpty
  obtain ⟨rfl, rfl⟩ := Prod.mk.inj (Option.some.inj h)
  have hTake : (text.takeWhile Char.isDigit).take most <+: text :=
    (List.take_prefix _ _).trans (List.takeWhile_prefix _)
  refine ⟨by simpa using hEmpty, ?_, ?_⟩
  · intro c hMem
    exact List.mem_takeWhile_imp (List.mem_of_mem_take hMem)
  · exact (List.prefix_iff_eq_append.mp hTake).symm

/-- Behind a sign stand all digits that there are, at least one. What number they are plays no part
in where reading ends. -/
theorem signed_eq_some {sign : Char} {value : List Char → Int} {text rest : List Char} {y : Int}
    (h : (do char sign; return value (← allDigits) : Reader Int) text = some (y, rest)) :
    ∃ ds, ds ≠ [] ∧ (∀ c ∈ ds, c.isDigit = true) ∧ text = [sign] ++ (ds ++ rest) := by
  obtain ⟨_, _, hSign, h⟩ := bind_eq_some.mp h
  obtain ⟨ds, _, hDigits, h⟩ := bind_eq_some.mp h
  obtain ⟨-, rfl⟩ := pure_eq_some.mp h
  obtain ⟨hNonempty, hAll, rfl⟩ := digits_eq_some hDigits
  exact ⟨ds, hNonempty, hAll, char_eq_some.mp hSign⟩

/-- A year stands behind its sign, if it has one, and in front of it white space at most. -/
theorem year_eq_some {text rest : List Char} {y : Int} (h : year text = some (y, rest)) :
    ∃ sign ds, sign ∈ [[], ['-'], ['+']] ∧ ds ≠ [] ∧ (∀ c ∈ ds, c.isDigit = true) ∧
      Text.trimLeft text = sign ++ (ds ++ rest) := by
  rw [year, spaces_bind, get_bind] at h
  cases hText : Text.trimLeft text with
  | nil =>
      rw [hText] at h
      contradiction
  | cons c cs =>
      rw [hText] at h
      by_cases hMinus : c = '-'
      · subst hMinus
        obtain ⟨ds, hDigits⟩ := signed_eq_some h
        exact ⟨['-'], ds, by simp, hDigits⟩
      by_cases hPlus : c = '+'
      · subst hPlus
        obtain ⟨ds, hDigits⟩ := signed_eq_some h
        exact ⟨['+'], ds, by simp, hDigits⟩
      · simp only [List.cons.injEq, hMinus, hPlus, false_and, imp_false, not_false_eq_true,
          implies_true] at h
        obtain ⟨ds, _, hDigits, h⟩ := bind_eq_some.mp h
        obtain ⟨-, rfl⟩ := pure_eq_some.mp h
        exact ⟨[], ds, by simp, digits_eq_some hDigits⟩

/-- A reader that leaves an end of the text. Nothing is asked of it where it refuses a text. -/
def LeavesEnd (reader : Reader α) : Prop :=
  ∀ text a rest, reader text = some (a, rest) → rest <:+ text

/-- A reader that leaves what stands behind some digit. What it leaves may be empty, and may begin
with a digit too. -/
def StopsBehindDigit (reader : Reader α) : Prop :=
  ∀ text a rest, reader text = some (a, rest) → ∃ c, c.isDigit = true ∧ (c :: rest) <:+ text

/-- A reader that leaves the whole text. It may still look at the text, or refuse what came
before. -/
def TakesNothing (reader : Reader α) : Prop :=
  ∀ text a rest, reader text = some (a, rest) → text = rest

/-- What comes first may leave any end of the text, as long as a digit is read behind it. -/
theorem StopsBehindDigit.after {reader : Reader α} {next : α → Reader β} (h : LeavesEnd reader)
    (hNext : ∀ a, StopsBehindDigit (next a)) : StopsBehindDigit (reader >>= next) := by
  intro text b rest hRead
  obtain ⟨a, middle, hFirst, hSecond⟩ := bind_eq_some.mp hRead
  obtain ⟨c, hDigit, hSuffix⟩ := hNext a middle b rest hSecond
  exact ⟨c, hDigit, hSuffix.trans (h text a middle hFirst)⟩

/-- What comes last may take nothing, so that checks of what has been read do no harm. -/
theorem StopsBehindDigit.before {reader : Reader α} {next : α → Reader β}
    (h : StopsBehindDigit reader) (hNext : ∀ a, TakesNothing (next a)) :
    StopsBehindDigit (reader >>= next) := by
  intro text b rest hRead
  obtain ⟨a, middle, hFirst, hSecond⟩ := bind_eq_some.mp hRead
  obtain rfl := hNext a middle b rest hSecond
  exact h text a middle hFirst

theorem StopsBehindDigit.leavesEnd {reader : Reader α} (h : StopsBehindDigit reader) :
    LeavesEnd reader := by
  intro text a rest hRead
  obtain ⟨c, -, hSuffix⟩ := h text a rest hRead
  exact (List.suffix_cons c rest).trans hSuffix

theorem takesNothing_pure (a : α) : TakesNothing (pure a) := by
  intro text b rest hRead
  exact (pure_eq_some.mp hRead).2

/-- A check of what has been read. It may refuse, but it never takes a character. -/
theorem takesNothing_check (checked : Option α) :
    TakesNothing fun text : List Char => checked.map (·, text) := by
  intro text a rest hRead
  obtain ⟨_, -, hPair⟩ := Option.map_eq_some_iff.mp hRead
  exact (Prod.mk.inj hPair).2

theorem leavesEnd_char (c : Char) : LeavesEnd (char c) := by
  intro text a rest hRead
  rw [char_eq_some.mp hRead]
  exact List.suffix_cons c rest

theorem leavesEnd_spaces : LeavesEnd spaces := by
  intro text a rest hRead
  obtain ⟨-, rfl⟩ := Prod.mk.inj (Option.some.inj hRead)
  exact List.dropWhile_suffix _

theorem leavesEnd_year : LeavesEnd year := by
  intro text y rest hRead
  obtain ⟨sign, ds, -, -, -, hText⟩ := year_eq_some hRead
  have hTrimmed : rest <:+ Text.trimLeft text := ⟨sign ++ ds, by rw [hText, List.append_assoc]⟩
  exact hTrimmed.trans (List.dropWhile_suffix _)

theorem stopsBehindDigit_digits (most : Nat) : StopsBehindDigit (digits most) := by
  intro text ds rest hRead
  obtain ⟨hNonempty, hAll, rfl⟩ := digits_eq_some hRead
  refine ⟨ds.getLast hNonempty, hAll _ (List.getLast_mem hNonempty), ds.dropLast, ?_⟩
  rw [List.append_cons, List.dropLast_concat_getLast]

theorem stopsBehindDigit_twoDigits : StopsBehindDigit twoDigits := by
  apply StopsBehindDigit.after leavesEnd_spaces
  intro _
  exact (stopsBehindDigit_digits 2).before fun _ => takesNothing_pure _

/-- A date ends with the last digit of its day; the check that there is such a day takes nothing. -/
theorem stopsBehindDigit_date : StopsBehindDigit date := by
  apply StopsBehindDigit.after leavesEnd_year
  intro y
  apply StopsBehindDigit.after (leavesEnd_char '-')
  intro _
  apply StopsBehindDigit.after stopsBehindDigit_twoDigits.leavesEnd
  intro m
  apply StopsBehindDigit.after (leavesEnd_char '-')
  intro _
  exact stopsBehindDigit_twoDigits.before fun d => takesNothing_check (Date.of? y m d)

theorem stopsBehindDigit_time : StopsBehindDigit (time false) := by
  apply StopsBehindDigit.after stopsBehindDigit_twoDigits.leavesEnd
  intro h
  apply StopsBehindDigit.after (leavesEnd_char ':')
  intro _
  apply StopsBehindDigit.after stopsBehindDigit_twoDigits.leavesEnd
  intro m
  apply StopsBehindDigit.after (leavesEnd_char ':')
  intro _
  exact stopsBehindDigit_twoDigits.before fun s => takesNothing_check (TimeOfDay.ofClock? h m s 0)

/-- A date-time without a fraction ends where its time does, with the last digit of the seconds,
whatever has stood between the date and the time. -/
theorem stopsBehindDigit_dateTime {between : Reader Unit} (h : LeavesEnd between) :
    StopsBehindDigit (dateTime between false) := by
  apply StopsBehindDigit.after stopsBehindDigit_date.leavesEnd
  intro d
  apply StopsBehindDigit.after h
  intro _
  exact stopsBehindDigit_time.before fun t => takesNothing_pure _

/-- A reader to which white space in front of the text makes no difference. White space inside of
the text may make one. -/
def SkipsSpaces (reader : Reader α) : Prop :=
  ∀ text, reader (Text.trimLeft text) = reader text

theorem SkipsSpaces.bind {reader : Reader α} (h : SkipsSpaces reader) (next : α → Reader β) :
    SkipsSpaces (reader >>= next) := by
  intro text
  change (reader (Text.trimLeft text) >>= fun read => next read.1 read.2) = _
  rw [h text]
  rfl

theorem skipsSpaces_spaces : SkipsSpaces spaces := by
  intro text
  change some ((), Text.trimLeft (Text.trimLeft text)) = _
  rw [Text.trimLeft_trimLeft]
  rfl

theorem skipsSpaces_date : SkipsSpaces date :=
  (skipsSpaces_spaces.bind _).bind _

theorem skipsSpaces_dateTime (between : Reader Unit) (withFraction : Bool) :
    SkipsSpaces (dateTime between withFraction) :=
  skipsSpaces_date.bind _

/-- A text is read whole if nothing of it is left. Otherwise it is refused, even though a beginning
of it could be read. -/
theorem whole?_eq_some {reader : Reader α} {text : List Char} {a : α} :
    whole? reader text = some a ↔ reader text = some (a, []) := by
  rw [whole?]
  split
  · next hRead => simp [hRead]
  · next hRead =>
    simp only [reduceCtorEq, false_iff]
    exact hRead a

/-- A text that is read up to a digit at its end is trimmed in front only, because the digit is no
white space. -/
theorem trim_of_whole? {reader : Reader α} (hStops : StopsBehindDigit reader) {text : List Char}
    {a : α} (h : whole? reader text = some a) : Text.trim text = Text.trimLeft text := by
  obtain ⟨c, hDigit, front, rfl⟩ := hStops text a [] (whole?_eq_some.mp h)
  exact Text.trim_concat (Text.isSpace_of_isDigit hDigit) front

/-- What a text is read as, it is read as without the white space around it as well. The other way
round is not said: white space at the end is refused. -/
theorem whole?_trim {reader : Reader α} (hSkips : SkipsSpaces reader)
    (hStops : StopsBehindDigit reader) {text : List Char} {a : α}
    (h : whole? reader text = some a) : whole? reader (Text.trim text) = some a := by
  rw [trim_of_whole? hStops h, whole?, hSkips]
  exact h

/-- A time that ends a text may be read with a fraction or without. Where something is left, the
fraction might have taken of it. -/
theorem time_true {text : List Char} {t : TimeOfDay} (h : time false text = some (t, [])) :
    time true text = some (t, []) := by
  obtain ⟨hour, _, hHour, h⟩ := bind_eq_some.mp h
  obtain ⟨_, _, hFirst, h⟩ := bind_eq_some.mp h
  obtain ⟨minute, _, hMinute, h⟩ := bind_eq_some.mp h
  obtain ⟨_, _, hSecond, h⟩ := bind_eq_some.mp h
  obtain ⟨second, rest, hShown, h⟩ := bind_eq_some.mp h
  obtain rfl : rest = [] := takesNothing_check (TimeOfDay.ofClock? hour minute second 0) _ _ _ h
  apply bind_eq_some.mpr ⟨hour, _, hHour, _⟩
  apply bind_eq_some.mpr ⟨_, _, hFirst, _⟩
  apply bind_eq_some.mpr ⟨minute, _, hMinute, _⟩
  apply bind_eq_some.mpr ⟨_, _, hSecond, _⟩
  exact bind_eq_some.mpr ⟨second, [], hShown, h⟩

/-- A date-time that ends a text may be read with a fraction or without, too. -/
theorem dateTime_true {between : Reader Unit} {text : List Char} {dt : DateTime}
    (h : dateTime between false text = some (dt, [])) :
    dateTime between true text = some (dt, []) := by
  obtain ⟨d, _, hDate, h⟩ := bind_eq_some.mp h
  obtain ⟨_, _, hBetween, h⟩ := bind_eq_some.mp h
  obtain ⟨t, _, hTime, h⟩ := bind_eq_some.mp h
  obtain ⟨rfl, rfl⟩ := pure_eq_some.mp h
  apply bind_eq_some.mpr ⟨d, _, hDate, _⟩
  apply bind_eq_some.mpr ⟨_, _, hBetween, _⟩
  exact bind_eq_some.mpr ⟨t, [], time_true hTime, rfl⟩

/-- Behind a date that ends the text there is no time, whatever may stand between them. -/
theorem dateTime_of_date {text : List Char} {d : Date} (h : date text = some (d, []))
    {between : Reader Unit} (hEnd : LeavesEnd between) (withFraction : Bool) :
    dateTime between withFraction text = none := by
  cases hRead : dateTime between withFraction text with
  | none => rfl
  | some read =>
      obtain ⟨dt, rest⟩ := read
      obtain ⟨d', middle, hDate, hRest⟩ := bind_eq_some.mp hRead
      obtain ⟨-, rfl⟩ := Prod.mk.inj (Option.some.inj (h.symm.trans hDate))
      obtain ⟨_, after, hBetween, hTime⟩ := bind_eq_some.mp hRest
      obtain rfl := List.suffix_nil.mp (hEnd _ _ _ hBetween)
      contradiction

/-- The text of a date goes on with a hyphen behind the digits of the year. This is what tells it
from the text of an integer. -/
theorem date_eq_some {text rest : List Char} {d : Date} (h : date text = some (d, rest)) :
    ∃ sign ds after, sign ∈ [[], ['-'], ['+']] ∧ ds ≠ [] ∧ (∀ c ∈ ds, c.isDigit = true) ∧
      Text.trimLeft text = sign ++ (ds ++ '-' :: after) := by
  obtain ⟨y, middle, hYear, h⟩ := bind_eq_some.mp h
  obtain ⟨_, after, hHyphen, -⟩ := bind_eq_some.mp h
  obtain rfl := char_eq_some.mp hHyphen
  obtain ⟨sign, ds, hSign, hNonempty, hAll, hText⟩ := year_eq_some hYear
  exact ⟨sign, ds, after, hSign, hNonempty, hAll, hText⟩

end LocaleMessage.Calendar.Reader
