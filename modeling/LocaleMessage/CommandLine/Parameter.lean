import LocaleMessage.Value

/-!
Values given on the command line.
-/

namespace LocaleMessage

/-- The value that a text on the command line stands for: an integer, a finite floating-point
number, a date-time without a fraction, a date, or the text itself. -/
def Value.ofParameter (text : String) : Value :=
  match Number.ofText? text with
  | some (.integer i) => number i
  | some (.decimal f) => float f
  | none =>
    match (DateTime.ofMarkedText? false text.toList).or (DateTime.ofDateText? text.toList) with
    | some dt => dateTime dt
    | none => string text

end LocaleMessage
