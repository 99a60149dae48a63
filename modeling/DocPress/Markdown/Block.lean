import DocPress.Markdown.Marker

/-!
# The block tree

* `Block` — a block of a document. The text of paragraphs, headings and table cells is kept as it is
  written; inline markup in it is resolved once all link definitions are known.
-/

namespace DocPress.Markdown

/-- A block of a document. -/
inductive Block where
  | paragraph (text : List Char)
  | heading (level : Nat) (text : List Char)
  | rule
  /-- Code, line by line; a fenced block has an info string, which may be empty. -/
  | code (info : Option (List Char)) (lines : List (List Char))
  /-- HTML, line by line. -/
  | html (lines : List (List Char))
  | table (alignments : List Alignment) (header : List (List Char)) (rows : List (List (List Char)))
  | quote (children : List Block)
  /-- A list; an ordered one has the number of its first item. -/
  | list (start : Option Nat) (tight : Bool) (items : List Block)
  | item (children : List Block)

end DocPress.Markdown
