/-!
The edit distance of two words: the least number of insertions, deletions and replacements of
one character that lead from one to the other.

The distances between one suffix of the first word and all suffixes of the second form a row,
longest suffix first; `nextRow` extends the table by one row.
-/

namespace LocaleMessage.Text

/-- The row for `a :: as` from the row for `as`, both over the suffixes of the second word. -/
def nextRow (a : Char) : List Char → List Nat → List Nat
  | b :: bs, down :: row =>
    let rest := nextRow a bs row
    let diagonal := row.headD 0 + if a = b then 0 else 1
    min diagonal (min (down + 1) (rest.headD 0 + 1)) :: rest
  | _, row => row.map (· + 1)

/-- The distances between `as` and every suffix of `bs`. -/
def distanceRow : List Char → List Char → List Nat
  | [], bs => (List.range (bs.length + 1)).reverse
  | a :: as, bs => nextRow a bs (distanceRow as bs)

/-- The edit distance of two words. -/
def editDistance (as bs : List Char) : Nat :=
  (distanceRow as bs).headD 0

end LocaleMessage.Text
