/-!
Texts cut into lines.

A line ends with a line feed, and a carriage return right before that belongs to the line end.  The
empty text has no line, and a text that ends with a line feed has no further line behind it.
-/

namespace Rehearsal.Text

/-- The pieces of a text between line feeds. -/
def pieces (text : String) : List String :=
  (text.toList.splitOn '\n').map String.ofList

/-- A line without the carriage return that its line end began with. -/
def dropReturn (line : List Char) : List Char :=
  if line.getLast? = some '\r' then line.dropLast else line

/-- Drops the line ends: every piece but the last was closed by a line feed, and the last is a line
only if something stands in it. -/
def closeLines : List (List Char) → List (List Char)
  | [] => []
  | [last] => if last.isEmpty then [] else [last]
  | line :: rest => dropReturn line :: closeLines rest

def lines (text : String) : List String :=
  (closeLines (text.toList.splitOn '\n')).map String.ofList

end Rehearsal.Text
