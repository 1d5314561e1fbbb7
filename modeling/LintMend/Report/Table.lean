import LintMend.Text.Width

/-!
# Tables

Rows of cells in a frame of lines, below a header with a double line. Every
column is as wide as its widest cell; a cell may have several lines.
-/

namespace LintMend

/-- A cell as its lines. -/
abbrev Cell := List Text

namespace Table

def cell (text : String) : Cell :=
  text.toList.splitOn '\n'

/-- The width of the widest cell of each column. -/
def widths : List (List Cell) → List Nat
  | [] => []
  | [row] => row.map fun cell => (cell.map Text.width).foldl max 0
  | row :: rows =>
    List.zipWith max (row.map fun cell =>
      (cell.map Text.width).foldl max 0) (widths rows)

/-- A line of a cell with a blank on both sides, filled up to the width of its
column. -/
def filled (width : Nat) (line : Text) : Text :=
  ' ' :: line ++ List.replicate (width - Text.width line) ' ' ++ [' ']

/-- Pieces between the ends of a line. -/
def framed (first middle last : Char) (pieces : List Text) : Text :=
  first :: [middle].intercalate pieces ++ [last]

/-- A line across all columns. -/
def rule (first fill middle last : Char) (widths : List Nat) : Text :=
  framed first middle last (widths.map fun width =>
    List.replicate (width + 2) fill)

def rowHeight (row : List Cell) : Nat :=
  (row.map List.length).foldl max 0

/-- The lines of a row; cells with fewer lines than others are blank below. -/
def rowLines (widths : List Nat) (row : List Cell) : List Text :=
  (List.range (rowHeight row)).map fun index =>
    framed '│' '┆' '│'
      (List.zipWith (fun width (cell : Cell) =>
        filled width (cell[index]?.getD [])) widths row)

/-- The lines of the rows with rules between them. -/
def bodyLines (widths : List Nat) (rows : List (List Cell)) : List Text :=
  [rule '├' '╌' '┼' '┤' widths].intercalate (rows.map (rowLines widths))

/-- The lines of a table; every row has as many cells as the header. -/
def lines (header : List String) (rows : List (List String)) : List Text :=
  let head := header.map cell
  let body := rows.map fun row => row.map cell
  let widths := widths (head :: body)
  let belowHead :=
    if rows.isEmpty then []
    else rule '╞' '═' '╪' '╡' widths :: bodyLines widths body
  rule '┌' '─' '┬' '┐' widths :: rowLines widths head ++ belowHead
    ++ [rule '└' '─' '┴' '┘' widths]

end Table

end LintMend
