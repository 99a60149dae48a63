import DocPress.Text.Replace
import DocPress.Text.White

/-!
# Blocks of a comment

* `Block` — a paragraph, a heading or preformatted lines: what every markup of comments is brought
  to before it is laid out as text.
* `convertQuotes` — the digraphs of two back quotes and of two apostrophes as curly quotes.

Specification: section 10.3, the blocks that both markup engines share.
-/

namespace DocPress.Comment

/-- A structural unit of a comment. -/
inductive Block where
  /-- Lines of running text. -/
  | para (lines : List (List Char))
  | heading (title : List Char)
  /-- Verbatim lines without their common indentation. -/
  | pre (lines : List (List Char))
  deriving DecidableEq, Repr

/-- Two back quotes become an opening curly quote, then two apostrophes a closing one. -/
def convertQuotes (s : List Char) : List Char :=
  Text.replaceAll "''".toList ['\u201D'] (Text.replaceAll "\x60\x60".toList ['\u201C'] s)

end DocPress.Comment
