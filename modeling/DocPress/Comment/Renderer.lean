import DocPress.Comment.Layout
import DocPress.Comment.Markdown
import DocPress.Comment.Plain

/-!
# Rendering comments

* `Markup` — how comments are written; `Markup.html`, `Markup.text` — a comment in HTML and as text.
* `demoteHeadings` — headings of level three made level four, below those of the page.
* `rfcAt?`, `linkRfcs` — references to RFCs as links.
* `Renderer` — markup and layout; `Renderer.html`, `Renderer.text` — what a page shows.

Specification: section 4.3 (Comment Renderer), helpers `comment` and `commentText`.
-/

namespace DocPress.Comment

/-- How comments are written. -/
inductive Markup where
  | plain
  | markdown
  deriving DecidableEq, Repr

/-- The blocks of a comment. -/
def Markup.blocks (m : Markup) (comment : List Char) : List Block :=
  match m with
  | .plain => Plain.blocks comment
  | .markdown => Markdown.blocks comment

/-- A comment in HTML. -/
def Markup.html (m : Markup) (comment : List Char) : List Char :=
  match m with
  | .plain => Plain.html comment
  | .markdown => Markdown.html comment

/-- A comment as text of a shape. -/
def Markup.text (m : Markup) (shape : Shape) (comment : List Char) : List Char :=
  layout shape (m.blocks comment)

/-- Headings of level three made level four. -/
def demoteHeadings (html : List Char) : List Char :=
  Text.replaceAll "</h3>".toList "</h4>".toList
    (Text.replaceAll "<h3>".toList "<h4>".toList
      (Text.replaceAll "<h3 ".toList "<h4 ".toList html))

/-- Whether a character may separate the word RFC from its number. -/
def isRfcBlank (c : Char) : Bool :=
  c == '\t' || c == '\n' || c == '\x0c' || c == '\r' || c == ' '

/-- The reference to an RFC that a text begins with, and its number of three or four digits. -/
def rfcAt? (s : List Char) : Option (List Char × List Char) :=
  match "RFC".toList.isPrefixOf? s with
  | none => none
  | some rest =>
    let blanks := rest.takeWhile isRfcBlank
    let digits := ((rest.drop blanks.length).take 4).takeWhile Char.isDigit
    if blanks.isEmpty || digits.length < 3 then none
    else some ("RFC".toList ++ blanks ++ digits, digits)

/-- A link to an RFC. -/
def rfcLink (label digits : List Char) : List Char :=
  "<a href=\"http://tools.ietf.org/html/rfc".toList ++ digits ++ "\">".toList ++ label ++ "</a>".toList

/-- References to RFCs as links, after `skip` characters of one already linked. -/
def linkRfcsFrom : Nat → List Char → List Char
  | _, [] => []
  | skip + 1, _ :: rest => linkRfcsFrom skip rest
  | 0, c :: rest =>
    match rfcAt? (c :: rest) with
    | some (label, digits) => rfcLink label digits ++ linkRfcsFrom (label.length - 1) rest
    | none => c :: linkRfcsFrom 0 rest

/-- References to RFCs as links. -/
def linkRfcs (html : List Char) : List Char := linkRfcsFrom 0 html

/-- How comments are rendered: their markup, the columns that text is indented by on both sides, and
the width of the page. -/
structure Renderer where
  markup : Markup := .plain
  indent : Nat := 4
  width : Nat := 80
  deriving DecidableEq, Repr

/-- A comment in HTML. -/
def Renderer.html (r : Renderer) (comment : String) : String :=
  String.ofList (linkRfcs (demoteHeadings (r.markup.html comment.toList)))

/-- The shape of text: preformatted lines begin with a tab. -/
def Renderer.shape (r : Renderer) : Shape :=
  ⟨List.replicate r.indent ' ', ['\t'], r.width - 2 * r.indent⟩

/-- A comment as text. -/
def Renderer.text (r : Renderer) (comment : String) : String :=
  String.ofList (r.markup.text r.shape comment.toList)

end DocPress.Comment
