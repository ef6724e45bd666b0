import FacetedSearch.Text.Cut
import FacetedSearch.Text.Width

/-!
# Tables

A table has a head and rows of cells. Columns are as wide as their widest line, at least one column of the terminal,
with a blank on either side. A cell may have several lines; a row is as high as its highest cell.

* `tableLines`: the lines of a table.
-/

namespace FacetedSearch

/-- The lines of a cell. -/
def cellLines (cell : String) : List (List Char) := cutAt '\n' cell.toList

/-- The columns that a cell needs. -/
def cellWidth (cell : String) : Nat := ((cellLines cell).map textWidth).foldl max 1

/-- The width of every column: the largest one of its cells. -/
def columnWidths (head : List String) (rows : List (List String)) : List Nat :=
  rows.foldl (fun ws row => List.zipWith max ws (row.map cellWidth)) (head.map cellWidth)

/-- A line of a cell, filled up to the width of its column. -/
def padLine (width : Nat) (line : List Char) : List Char :=
  ' ' :: line ++ List.replicate (width - textWidth line) ' ' ++ [' ']

/-- The given line of every cell of a row; a cell without it leaves its place blank. -/
def rowLine (widths : List Nat) (cells : List (List (List Char))) (n : Nat) : List (List Char) :=
  List.zipWith (fun width lines => padLine width (lines[n]?.getD [])) widths cells

/-- The lines of a row, each between the outer borders. -/
def rowLines (widths : List Nat) (row : List String) : List String :=
  let cells := row.map cellLines
  let height := (cells.map List.length).foldl max 0
  (List.range height).map fun n =>
    String.ofList ('│' :: List.intercalate ['┆'] (rowLine widths cells n) ++ ['│'])

/-- A horizontal border: its two ends, its line, and the crossings with the columns. -/
def borderLine (widths : List Nat) (first line cross last : Char) : String :=
  String.ofList (first :: List.intercalate [cross] (widths.map fun w => List.replicate (w + 2) line) ++ [last])

/-- The lines of a table. -/
def tableLines (head : List String) (rows : List (List String)) : List String :=
  let widths := columnWidths head rows
  [borderLine widths '┌' '─' '┬' '┐'] ++ rowLines widths head ++ [borderLine widths '╞' '═' '╪' '╡'] ++
    rows.flatMap (rowLines widths) ++ [borderLine widths '└' '─' '┴' '┘']

end FacetedSearch
