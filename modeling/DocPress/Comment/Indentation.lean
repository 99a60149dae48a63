import DocPress.Text.White

/-!
# Indentation

* `indentOf` — the spaces and tabs that a line begins with.
* `commonIndent` — the longest indentation that all lines share, blank ones left aside.
* `unindent` — the lines without it; blank lines become empty.

Specification: section 10.3, the common indent of preformatted blocks.
-/

namespace DocPress.Comment

/-- Whether a character indents a line. -/
def isIndentChar (c : Char) : Bool := c == ' ' || c == '\t'

/-- The spaces and tabs that a line begins with. -/
def indentOf (line : List Char) : List Char := line.takeWhile isIndentChar

/-- Whether a line begins with a space or tab. -/
def isIndented (line : List Char) : Bool := line.head?.any isIndentChar

/-- The longest common beginning of two texts. -/
def commonStart : List Char → List Char → List Char
  | a :: s, b :: t => if a = b then a :: commonStart s t else []
  | _, _ => []

/-- The longest indentation that all lines share, blank ones left aside. -/
def commonIndent (lines : List (List Char)) : List Char :=
  match (lines.filter fun l => !Text.isBlank l).map indentOf with
  | [] => []
  | first :: rest => rest.foldl commonStart first

/-- The lines without their common indentation; blank lines become empty. -/
def unindent (lines : List (List Char)) : List (List Char) :=
  let size := (commonIndent lines).length
  lines.map fun l => if Text.isBlank l then [] else l.drop size

end DocPress.Comment
