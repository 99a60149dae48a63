/-!
# Positions in a line

Indentation is measured in columns; a tab reaches to the next multiple of four. A marker may use only
some of a tab's columns.

* `Cursor` — a position: the text from here on, the column, and columns of a tab not used yet.
* `Cursor.skip` — the position after some columns of spaces and tabs.
-/

namespace DocPress.Markdown

/-- A position in the source. -/
structure Cursor where
  /-- The source from here on. -/
  rest : List Char
  column : Nat := 0
  /-- Columns of the tab just passed that are not used yet. -/
  pending : Nat := 0

/-- Skips so many columns of spaces and tabs; the first result is the number not found. -/
def skipColumns : Nat → List Char → Nat → Nat × Cursor
  | 0, rest, column => (0, ⟨rest, column, 0⟩)
  | n + 1, ' ' :: rest, column => skipColumns n rest (column + 1)
  | n + 1, '\t' :: rest, column =>
    let size := 4 - column % 4
    if size ≤ n + 1 then skipColumns (n + 1 - size) rest (column + size)
    else (0, ⟨rest, column + size, size - (n + 1)⟩)
  | n + 1, rest, column => (n + 1, ⟨rest, column, 0⟩)

/-- Skips so many columns of indentation; the first result is the number not found. -/
def Cursor.skip (n : Nat) (c : Cursor) : Nat × Cursor :=
  if n ≤ c.pending then (0, { c with pending := c.pending - n })
  else skipColumns (n - c.pending) c.rest c.column

/-- The position after so many columns of indentation, if there are as many. -/
def Cursor.skip? (n : Nat) (c : Cursor) : Option Cursor :=
  match c.skip n with
  | (0, next) => some next
  | _ => none

/-- Skips at most so many columns of indentation; the first result is the number found. -/
def Cursor.skipUpTo (n : Nat) (c : Cursor) : Nat × Cursor :=
  let (missing, next) := c.skip n
  (n - missing, next)

/-- The position after one character that is no tab. -/
def Cursor.next (c : Cursor) : Cursor := ⟨c.rest.drop 1, c.column + 1, 0⟩

/-- Whether a line ends here. -/
def Cursor.atLineEnd (c : Cursor) : Bool := c.rest.head?.all fun x => x == '\n' || x == '\r'

end DocPress.Markdown
