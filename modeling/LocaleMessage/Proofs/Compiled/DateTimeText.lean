import LocaleMessage.Proofs.Calendar.RoundTrip
import LocaleMessage.Proofs.CommandLine.Parameter
import LocaleMessage.Proofs.Compiled.Agreement

/-! Date-times that are given as their text. Messages cannot tell the text from the date-time itself
where the text is read back as that date-time, which is so unless a leap second has been moved into
the middle of a minute. -/
namespace LocaleMessage

open Calendar (Reader)

namespace Value

variable (dt : DateTime)

/-- The text of a date-time is seen as what a clock shows. Where a clock cannot show the date-time,
it is seen as another one. -/
theorem dateTime?_text : (string (dateTime dt).text).dateTime? = some dt.shown := by
  rw [dateTime?, text, String.toList_ofList, dt.trim_text, dt.ofText?_text]

/-- It is seen as the date-time itself exactly if a clock can show that. The other direction is why
the condition cannot be left out. -/
theorem dateTime?_text_iff :
    (string (dateTime dt).text).dateTime? = some dt ↔ dt.time.OnClock := by
  rw [dateTime?_text, Option.some_inj, DateTime.shown_eq_self_iff]

/-- Behind its year stands a hyphen, so that it is no number, and plurals take it as they take the
date-time. -/
theorem number?_text : (string (dateTime dt).text).number? = none := by
  have hTrim : Text.trim dt.text = Text.trimLeft dt.text := by
    rw [dt.trim_text, dt.trimLeft_text]
  rw [number?, text, String.toList_ofList]
  exact number?_of_date (Reader.date_text dt.date _) hTrim

end Value

variable {m : Type → Type} {dt : DateTime}

/-- A date-time that a clock can show is read back from its text, whatever its year, its fraction
and whether it is a leap second. Messages write the text like the date-time: in every style, and
with the same questions to the collaborators. -/
theorem format_dateTime_text [Monad m] [LawfulMonad m] (h : dt.time.OnClock) :
    (Value.string (Value.dateTime dt).text).dateTime? = some dt ∧
      ∀ (message : Message) (options : CompileOptions m) (bindings : Bindings) (id : String),
        (CompiledMessage.ofMessage message options).format
            (bindings.insert id (.string (Value.dateTime dt).text)) =
          (CompiledMessage.ofMessage message options).format
            (bindings.insert id (.dateTime dt)) := by
  have hDateTime : (Value.string (Value.dateTime dt).text).dateTime? = some dt :=
    (Value.dateTime?_text_iff dt).mpr h
  constructor
  · exact hDateTime
  · intro message options bindings id
    have hAlways : message.hasDates = true → True := fun _ => trivial
    refine CompiledMessage.format_congr rfl (Environment.agrees_insert id ?_) hAlways
    constructor
    · rfl
    · rw [Value.number?_text]
      exact .none
    · intro _
      rw [hDateTime]
      exact .some fun _ _ => rfl

/-- The last date-time that there is, in a leap second and a fraction of it. Its year has six digits
and a sign. -/
theorem format_dateTime_text_last :
    let dt : DateTime := ⟨⟨262142, 12, 31, by decide⟩, ⟨23, 59, 59, 1999999999, by decide⟩⟩
    dt.time.OnClock ∧ (Value.dateTime dt).text = "+262142-12-31 23:59:60.999999999" ∧
      (Value.string "+262142-12-31 23:59:60.999999999").dateTime? = some dt ∧
      ((CompiledMessage.ofMessage
        [.typed "d" .date (some "%Y"), .literal " ", .typed "d" .time (some "%S%.f")]
        (⟨"en", true, .standard⟩ : CompileOptions Id)).format
          (Bindings.empty.insert "d" (.string "+262142-12-31 23:59:60.999999999"))).run =
        .ok "+262142 60.999999999" := by
  intro dt
  have hClock : dt.time.OnClock := by decide
  have hText : (Value.dateTime dt).text = "+262142-12-31 23:59:60.999999999" := by decide +kernel
  obtain ⟨hDateTime, hFormat⟩ := format_dateTime_text hClock (m := Id)
  rw [hText] at hDateTime hFormat
  refine ⟨hClock, hText, hDateTime, ?_⟩
  rw [hFormat]
  decide +kernel

/-- A leap second on the clock of a place that is one second ahead. It is seen as the second after
it, and written in seconds since 1970 as the second after it. -/
theorem format_dateTime_text_ahead :
    let leap : DateTime := ⟨⟨2016, 12, 31, by decide⟩, ⟨23, 59, 59, 1000000000, by decide⟩⟩
    let dt : DateTime := ⟨⟨2017, 1, 1, by decide⟩, ⟨0, 0, 0, 1000000000, by decide⟩⟩
    let message := CompiledMessage.ofMessage [.typed "d" .time (some "%s")]
      (⟨"en", true, .standard⟩ : CompileOptions Id)
    leap.ahead? 1 = some dt ∧
      (Value.string (Value.dateTime dt).text).dateTime? ≠ some dt ∧
      (message.format (Bindings.empty.insert "d" (.dateTime dt))).run = .ok "1483228800" ∧
      (message.format (Bindings.empty.insert "d" (.string (Value.dateTime dt).text))).run =
        .ok "1483228801" := by
  intro leap dt message
  have hAhead : leap.ahead? 1 = some dt := by decide +kernel
  have hOther : (Value.string (Value.dateTime dt).text).dateTime? ≠ some dt := by
    rw [ne_eq, Value.dateTime?_text_iff]
    decide
  exact ⟨hAhead, hOther, by decide +kernel, by decide +kernel⟩

end LocaleMessage
