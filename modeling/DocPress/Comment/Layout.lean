import DocPress.Comment.Block

/-!
# Text layout

Blocks as indented text of a limited width. Paragraphs are set apart by one blank line, headings by
two, and preformatted lines keep their own layout.

* `Fill` — how far the current line is filled; `Fill.word`, `Fill.text` — what words add to it.
* `layout` — the text of a list of blocks.

Specification: section 10.3, `render_text` of both markup engines from their blocks on.
-/

namespace DocPress.Comment

/-- The shape of the text: what lines of text and preformatted lines begin with, and the columns for
words on a line, the indentation not counted. -/
structure Shape where
  indent : List Char
  preIndent : List Char
  width : Nat

/-- How far the current line is filled. -/
structure Fill where
  /-- Columns used on the line, the indentation not counted. -/
  column : Nat := 0
  /-- Spaces to write before the next word of the line. -/
  gap : Nat := 0
  /-- Something was written before. -/
  printed : Bool := false

/-- One more word: on the current line if it fits, else on a new one. -/
def Fill.word (shape : Shape) (fill : Fill) (word : List Char) : Fill × List Char :=
  if 0 < fill.column ∧ shape.width < fill.column + fill.gap + word.length then
    ({ fill with column := word.length, gap := 1 }, '\n' :: (shape.indent ++ word))
  else
    let start := if fill.column = 0 then shape.indent else []
    ({ fill with column := fill.column + fill.gap + word.length, gap := 1 },
      start ++ List.replicate fill.gap ' ' ++ word)

/-- More words, one after the other. -/
def Fill.words (shape : Shape) (fill : Fill) : List (List Char) → Fill × List Char
  | [] => (fill, [])
  | w :: rest =>
    let (next, written) := fill.word shape w
    let (last, more) := next.words shape rest
    (last, written ++ more)

/-- A line of text with its quotes converted; a blank line sets it apart from what was written. -/
def Fill.text (shape : Shape) (fill : Fill) (line : List Char) : Fill × List Char :=
  let apart := if fill.column = 0 ∧ fill.printed then ['\n'] else []
  let (next, written) := { fill with printed := true }.words shape (Text.words (convertQuotes line))
  (next, apart ++ written)

/-- Several lines of text, one after the other. -/
def Fill.texts (shape : Shape) (fill : Fill) : List (List Char) → Fill × List Char
  | [] => (fill, [])
  | line :: rest =>
    let (next, written) := fill.text shape line
    let (last, more) := next.texts shape rest
    (last, written ++ more)

/-- The end of the current line, if anything is on it. -/
def Fill.flush (fill : Fill) : Fill × List Char :=
  if fill.column = 0 then (fill, []) else ({ fill with column := 0, gap := 0 }, ['\n'])

/-- A preformatted line. -/
def preLine (shape : Shape) (line : List Char) : List Char :=
  (if Text.isBlank line then [] else shape.preIndent ++ line) ++ ['\n']

/-- A block. -/
def Fill.block (shape : Shape) (fill : Fill) : Block → Fill × List Char
  | .para lines =>
    let (next, written) := fill.texts shape lines
    let (last, ending) := next.flush
    (last, written ++ ending)
  | .heading title =>
    let (next, written) := fill.text shape title
    let (last, ending) := next.flush
    (last, '\n' :: (written ++ ending))
  | .pre lines => ({ fill with printed := true }, '\n' :: lines.flatMap (preLine shape))

/-- Blocks, one after the other. -/
def Fill.blocks (shape : Shape) (fill : Fill) : List Block → List Char
  | [] => []
  | b :: rest =>
    let (next, written) := fill.block shape b
    written ++ next.blocks shape rest

/-- The text of a list of blocks. -/
def layout (shape : Shape) (blocks : List Block) : List Char := ({} : Fill).blocks shape blocks

end DocPress.Comment
