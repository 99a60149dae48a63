import DocPress.Comment.Block
import DocPress.Comment.Heading
import DocPress.Comment.Indentation
import DocPress.Comment.Link
import DocPress.Html.Escape
import DocPress.Text.Lines

/-!
# Plain comments

Plain comments have no marks: runs of indented lines are preformatted, and a lone line that reads
like a heading and is set off by blank lines is one.

* `blocks` — the blocks of a comment.
* `html` — the comment in HTML, with headings of level three.

Specification: section 10.3, first markup engine: `render_html`, and the blocks for `render_text`.
-/

namespace DocPress.Comment.Plain

/-- What the lines before a place leave behind. -/
structure Flow where
  /-- The open paragraph, its last line first. -/
  para : List (List Char) := []
  /-- A blank line came after the last line of text. -/
  afterBlank : Bool := false
  /-- The last block is a heading. -/
  afterHeading : Bool := false

/-- The open paragraph as a block, if there is one. -/
def closePara (para : List (List Char)) : List Block :=
  if para.isEmpty then [] else [.para para.reverse]

/-- The lines without the blank ones at the end. -/
def dropEndBlanks (lines : List (List Char)) : List (List Char) :=
  (lines.reverse.dropWhile Text.isBlank).reverse

/-- The preformatted run that lines begin with: up to the last indented line before any other text. -/
def preRun (lines : List (List Char)) : List (List Char) :=
  dropEndBlanks (lines.takeWhile fun l => Text.isBlank l || isIndented l)

/-- The heading at a line: it follows a blank line and no heading, and a blank line and then
unindented text follow it. -/
def headingAt? (flow : Flow) (line : List Char) (rest : List (List Char)) :
    Option (List Char) :=
  match rest with
  | blank :: next :: _ =>
    if flow.afterBlank && !flow.afterHeading && Text.isBlank blank && !Text.isBlank next &&
        !isIndented next then
      title? line
    else none
  | _ => none

/-- The blocks of the lines from a place on. -/
def blocksFrom (flow : Flow) (lines : List (List Char)) : List Block :=
  match lines with
  | [] => closePara flow.para
  | line :: rest =>
    if Text.isBlank line then
      closePara flow.para ++ blocksFrom { flow with para := [], afterBlank := true } rest
    else if isIndented line then
      let run := preRun (line :: rest)
      closePara flow.para ++ .pre (unindent run) ::
        blocksFrom { flow with para := [], afterHeading := false } (rest.drop (run.length - 1))
    else
      match headingAt? flow line rest with
      | some title =>
        closePara flow.para ++ .heading title ::
          blocksFrom { flow with para := [], afterHeading := true } (rest.drop 1)
      | none =>
        blocksFrom { para := line :: flow.para, afterBlank := false, afterHeading := false } rest
termination_by lines.length
decreasing_by
  · simp
  · simp only [List.length_drop, List.length_cons]; omega
  · simp only [List.length_drop, List.length_cons]; omega
  · simp

/-- The blocks of a comment. -/
def blocks (text : List Char) : List Block := blocksFrom {} (unindent (Text.lines text))

/-- A stretch of a line in HTML. -/
def spanHtml : Span → List Char
  | .plain text => Html.escapeText (convertQuotes text)
  | .url url =>
    "<a href=\"".toList ++ Html.escapeText url ++ "\">".toList ++ Html.escapeText url ++ "</a>".toList

/-- A line of a paragraph in HTML. -/
def lineHtml (line : List Char) : List Char := (spans line).flatMap spanHtml

/-- A block in HTML. -/
def blockHtml : Block → List Char
  | .para lines =>
    "<p>\n".toList ++ lines.flatMap (fun l => lineHtml l ++ ['\n']) ++ "</p>\n".toList
  | .heading title =>
    "<h3 id=\"".toList ++ Html.escapeText (anchorId title) ++ "\">".toList ++
      Html.escapeText (convertQuotes title) ++ "</h3>\n".toList
  | .pre lines =>
    "<pre>".toList ++ lines.flatMap (fun l => Html.escapeText l ++ ['\n']) ++ "</pre>\n".toList

/-- A comment in HTML. -/
def html (text : List Char) : List Char := (blocks text).flatMap blockHtml

end DocPress.Comment.Plain
