import Rehearsal.Text.Lines
import Rehearsal.Text.Width

/-!
Tables drawn with plain characters.

A column is as wide as the widest line in it, with a blank on either side.  A cell may have several
lines; its row is as high as the highest cell.
-/

namespace Rehearsal.Table

abbrev Row := List String

/-- The lines of a cell. -/
def cellLines (cell : String) : List String :=
  Text.pieces cell

def lineWidth (line : String) : Nat :=
  Text.width line.toList

/-- The number of cells on the screen that a cell of the table asks for. -/
def cellWidth (cell : String) : Nat :=
  ((cellLines cell).map lineWidth).foldl max 0

/-- The width of each column. -/
def columnWidths (header : Row) (rows : List Row) : List Nat :=
  rows.foldl (fun widths row => widths.zipWith (fun width cell => max width (cellWidth cell)) row)
    (header.map cellWidth)

def filled (c : Char) (count : Nat) : String :=
  String.ofList (List.replicate count c)

/-- A line between rows, from `left` to `right`, with `cross` where columns meet. -/
def rule (left fill cross right : String) (widths : List Nat) : String :=
  left ++ cross.intercalate (widths.map fun width => filled (fill.toList.headD '-') (width + 2)) ++
    right

/-- A line of a cell, filled up to the width of its column. -/
def padded (width : Nat) (line : String) : String :=
  " " ++ line ++ filled ' ' (width - lineWidth line + 1)

/-- The lines of a row. -/
def rowLines (widths : List Nat) (row : Row) : List String :=
  let cells := row.map cellLines
  let height := (cells.map List.length).foldl max 0
  (List.range height).map fun n =>
    let parts := widths.zipWith (fun width lines => padded width (lines.getD n "")) cells
    "|" ++ "|".intercalate parts ++ "|"

/-- The table, without a line feed at its end. -/
def draw (header : Row) (rows : List Row) : String :=
  let widths := columnWidths header rows
  let edge := rule "+" "-" "+" "+" widths
  let between := rule "|" "-" "+" "|" widths
  let bodies := (rows.map (rowLines widths)).intersperse [between]
  "\n".intercalate <|
    [edge] ++ rowLines widths header ++ [rule "+" "=" "=" "+" widths] ++ bodies.flatten ++ [edge]

end Rehearsal.Table
