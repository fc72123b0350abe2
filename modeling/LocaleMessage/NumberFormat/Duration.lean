import LocaleMessage.Number

/-!
Numbers of seconds as hours, minutes and seconds.
-/

namespace LocaleMessage.NumberFormat

/-- A number of seconds as `h:mm:ss`, or as `m:ss` below one hour. -/
def clock (seconds : Nat) : List Char :=
  let hours := seconds / 3600
  let minutes := seconds % 3600 / 60
  let rest := ':' :: paddedDigits 2 (seconds % 60)
  if hours = 0 then decimalDigits minutes ++ rest
  else decimalDigits hours ++ ':' :: (paddedDigits 2 minutes ++ rest)

/-- The whole seconds of a number, rounded with halves going away from zero and kept within 64
bits. -/
def wholeSeconds? : Number → Option Int64
  | .integer i => some i
  | .decimal f => f.round?.map int64Nearest

/-- A number of seconds behind its sign. Values that are not finite keep their names. -/
def duration (n : Number) : List Char :=
  match wholeSeconds? n with
  | some i => (if i.toInt < 0 then ['-'] else []) ++ clock i.toInt.natAbs
  | none => n.text.toList

end LocaleMessage.NumberFormat
