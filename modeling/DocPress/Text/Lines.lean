/-!
# Lines

* `lines` — a text cut at its line feeds. A carriage return directly before a line feed belongs to
  the line end; any other one stays in its line. A text that ends in a line feed has no further,
  empty line after it.
-/

namespace DocPress.Text

/-- A line without one carriage return at its end. -/
def dropReturn (line : List Char) : List Char :=
  if line.getLast? = some '\r' then line.dropLast else line

/-- Lines from the pieces between line feeds: every piece but the last was ended by a line feed. -/
def linesOfPieces : List (List Char) → List (List Char)
  | [] => []
  | [last] => if last.isEmpty then [] else [last]
  | piece :: next :: rest => dropReturn piece :: linesOfPieces (next :: rest)

/-- The lines of a text. -/
def lines (s : List Char) : List (List Char) := linesOfPieces (s.splitOn '\n')

end DocPress.Text
