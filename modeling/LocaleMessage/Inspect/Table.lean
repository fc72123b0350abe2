import LocaleMessage.Inspect.Rows
import LocaleMessage.Locale.Subtags
import LocaleMessage.Text.Width

/-!
Tables drawn with lines around them. A cell may have several lines of text.
-/

namespace LocaleMessage.Inspect

/-- The lines of a cell. -/
def cellLines (cell : String) : List (List Char) :=
  Locale.splitWhere (· = '\n') cell.toList

/-- The width of a cell, which is that of its widest line. -/
def cellWidth (cell : String) : Nat :=
  (cellLines cell).foldl (fun n line => max n (Text.width line)) 0

/-- The widths of the columns of a table. -/
def columnWidths : List (List String) → List Nat
  | [] => []
  | [row] => row.map cellWidth
  | row :: rest => List.zipWith max (row.map cellWidth) (columnWidths rest)

/-- A line of a cell with a space at both ends, filled up to a width. -/
def padCell (width : Nat) (line : List Char) : List Char :=
  ' ' :: (line ++ List.replicate (width - Text.width line + 1) ' ')

/-- One line of a row. Cells that have no such line are left blank. -/
def rowLine (widths : List Nat) (row : List String) (k : Nat) : List Char :=
  let cells := List.zipWith
    (fun width cell => padCell width ((cellLines cell).getD k [])) widths row
  '│' :: ((cells.intersperse [' ']).flatten ++ ['│'])

/-- All lines of a row. -/
def rowLines (widths : List Nat) (row : List String) : List (List Char) :=
  let height := row.foldl (fun n cell => max n (cellLines cell).length) 0
  (List.range height).map (rowLine widths row)

/-- A line across the table. -/
def rule (left middle right : Char) (widths : List Nat) : List Char :=
  let inside := widths.foldl (fun n width => n + width + 3) 0 - 1
  left :: (List.replicate inside middle ++ [right])

/-- The lines of a table with a head above its rows. -/
def tableLines (head : List String) (rows : List (List String)) : List (List Char) :=
  let widths := columnWidths (head :: rows)
  rule '┌' '─' '┐' widths :: (rowLines widths head ++ rule '╞' '═' '╡' widths ::
    (rows.flatMap (rowLines widths) ++ [rule '└' '─' '┘' widths]))

/-- The rows of a message as a table. -/
def table (message : Message) : String :=
  let lines := tableLines ["Branch", "Kind", "Argument", "Detail"]
    ((rows message).map fun row => [row.path, row.kind, row.id, row.detail])
  String.ofList (lines.intersperse ['\n']).flatten

end LocaleMessage.Inspect
