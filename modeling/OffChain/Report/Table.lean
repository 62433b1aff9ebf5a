import OffChain.Text.Split
import OffChain.Text.Width

/-!
# Tables

A table has a frame and, inside of it, columns without lines between them: every cell has a blank on
each side and is filled up to the width of the widest line of its column, and one more blank stands
between two columns.  A double line separates the header from the rows.  A cell of several lines
makes its row higher.
-/

namespace OffChain.Report

/-- A table of texts; every row has as many cells as the header. -/
structure Table where
  /-- The titles of the columns. -/
  header : List String
  /-- The rows. -/
  rows : List (List String)
deriving DecidableEq, Repr

namespace Table

/-- The lines of a cell. -/
def cellLines (cell : String) : List String :=
  (Text.splitAt '\n' cell.toList).map String.ofList

/-- The width of the widest line of a cell. -/
def cellWidth (cell : String) : Nat :=
  (cellLines cell).foldl (fun w line => max w (Text.width line)) 0

/-- The widths of the columns of a list of rows. -/
def columnWidths (rows : List (List String)) (columns : Nat) : List Nat :=
  (List.range columns).map fun i =>
    rows.foldl (fun w row => max w (cellWidth (row.getD i ""))) 0

/-- A line of a cell with its blanks, filled up to a width. -/
def pad (width : Nat) (line : String) : String :=
  " " ++ line ++ String.ofList (List.replicate (width - Text.width line) ' ') ++ " "

/-- The lines of a row. -/
def rowLines (widths : List Nat) (row : List String) : List String :=
  let cells := row.map cellLines
  let height := cells.foldl (fun h lines => max h lines.length) 0
  (List.range height).map fun i =>
    "│" ++ String.intercalate " "
      (List.zipWith (fun width lines => pad width (lines.getD i "")) widths cells) ++ "│"

/-- A horizontal line between two corners. -/
def rule (left middle right : Char) (widths : List Nat) : String :=
  String.ofList
    (left :: List.replicate (widths.foldl (fun n width => n + width + 3) 0 - 1) middle ++ [right])

/-- The text of a table. -/
def render (t : Table) : String :=
  let widths := columnWidths (t.header :: t.rows) t.header.length
  String.intercalate "\n"
    ([rule '┌' '─' '┐' widths] ++ rowLines widths t.header ++ [rule '╞' '═' '╡' widths]
      ++ t.rows.flatMap (rowLines widths) ++ [rule '└' '─' '┘' widths])

end Table

end OffChain.Report
