/-!
Texts as runs of equal characters.
-/

namespace LocaleMessage.DateFormat

/-- The longest runs of equal characters, each with its length. -/
def runs : List Char → List (Char × Nat)
  | [] => []
  | c :: cs =>
    match runs cs with
    | (d, n) :: rest => if c = d then (c, n + 1) :: rest else (c, 1) :: (d, n) :: rest
    | [] => [(c, 1)]

end LocaleMessage.DateFormat
