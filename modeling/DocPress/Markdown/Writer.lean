import DocPress.Markdown.Event
import DocPress.Url.Path

/-!
# Events as HTML

* `bodyText`, `attributeText`, `destinationText` — escaping of text, of attributes and of link
  destinations.
* `Page` — what was written before an event; `Page.event` — what an event writes.
* `write` — the HTML of a sequence of events.

The text inside an image is its alternative text: it is written into the attribute, and elements in
it are left out.
-/

namespace DocPress.Markdown

/-- A character of running text. -/
def bodyChar (c : Char) : List Char :=
  if c = '&' then "&amp;".toList
  else if c = '<' then "&lt;".toList
  else if c = '>' then "&gt;".toList
  else [c]

/-- Running text. -/
def bodyText (s : List Char) : List Char := s.flatMap bodyChar

/-- A character of an attribute. -/
def attributeChar (c : Char) : List Char := if c = '\x22' then "&quot;".toList else bodyChar c

/-- The value of an attribute. -/
def attributeText (s : List Char) : List Char := s.flatMap attributeChar

/-- Whether a byte stands for itself in a destination. -/
def isDestinationByte (b : UInt8) : Bool :=
  (0x30 ≤ b && b ≤ 0x39) || (0x41 ≤ b && b ≤ 0x5A) || (0x61 ≤ b && b ≤ 0x7A) ||
    "!#$%()*+,-./:;=?@^_~".toList.any fun c => c.toNat == b.toNat

/-- A byte of a destination. -/
def destinationByte (b : UInt8) : List Char :=
  if isDestinationByte b then [Char.ofNat b.toNat]
  else if b = 0x26 then "&amp;".toList
  else if b = 0x27 then "&#x27;".toList
  else Url.percentByte b

/-- A link destination. -/
def destinationText (s : List Char) : List Char := (Text.Utf8.encode s).flatMap destinationByte

/-- An image whose alternative text is being written: elements open in it, and its title. -/
structure OpenImage where
  depth : Nat
  title : List Char

/-- What was written before an event. -/
structure Page where
  /-- The next block may begin here: nothing was written yet, or a line end. -/
  fresh : Bool := true
  alignments : List Alignment := []
  /-- Cells of the current row written before. -/
  cell : Nat := 0
  inHead : Bool := false
  image : Option OpenImage := none

/-- Writes text that is not empty. -/
def Page.put (p : Page) (s : String) : Page × List Char :=
  ({ p with fresh := s.toList.getLast? == some '\n' }, s.toList)

/-- Writes text on a fresh line. -/
def Page.putFresh (p : Page) (s : String) : Page × List Char :=
  let (next, written) := p.put s
  (next, if p.fresh then written else '\n' :: written)

/-- The name of a heading's element. -/
def headingName (level : Nat) : String := "h" ++ toString level

/-- A title attribute, if there is a title. -/
def titleText (title : List Char) : List Char :=
  if title.isEmpty then [] else "\" title=\"".toList ++ attributeText title

/-- The attribute for the alignment of a cell. -/
def alignmentText : Option Alignment → String
  | some .left => " style=\"text-align: left\""
  | some .center => " style=\"text-align: center\""
  | some .right => " style=\"text-align: right\""
  | _ => ""

/-- Text that ends inside a line. -/
def Page.inLine (p : Page) (s : List Char) : Page × List Char := ({ p with fresh := false }, s)

/-- The start of an element. -/
def Page.start (p : Page) : Tag → Page × List Char
  | .htmlBlock => (p, [])
  | .paragraph => p.putFresh "<p>"
  | .heading level => p.putFresh ("<" ++ headingName level ++ ">")
  | .table alignments => { p with alignments }.put "<table>"
  | .tableHead => { p with inHead := true, cell := 0 }.put "<thead><tr>"
  | .tableRow => { p with cell := 0 }.put "<tr>"
  | .tableCell =>
    p.put ((if p.inHead then "<th" else "<td") ++ alignmentText p.alignments[p.cell]? ++ ">")
  | .quote => p.putFresh "<blockquote>\n"
  | .codeBlock info =>
    let language := (info.getD []).takeWhile (· != ' ')
    let start := if p.fresh then [] else ['\n']
    if language.isEmpty then p.inLine (start ++ "<pre><code>".toList)
    else p.inLine (start ++ "<pre><code class=\"language-".toList ++ attributeText language ++ "\">".toList)
  | .list none => p.putFresh "<ul>\n"
  | .list (some 1) => p.putFresh "<ol>\n"
  | .list (some n) => p.putFresh ("<ol start=\"" ++ toString n ++ "\">\n")
  | .item => p.putFresh "<li>"
  | .emphasis => p.put "<em>"
  | .strong => p.put "<strong>"
  | .strikethrough => p.put "<del>"
  | .link email dest title =>
    p.inLine ("<a href=\"".toList ++ (if email then "mailto:".toList else []) ++
      destinationText dest ++ titleText title ++ "\">".toList)
  | .image dest title =>
    { p with image := some ⟨0, title⟩ }.inLine
      ("<img src=\"".toList ++ destinationText dest ++ "\" alt=\"".toList)

/-- The end of an element. -/
def Page.stop (p : Page) : Tag → Page × List Char
  | .htmlBlock => (p, [])
  | .paragraph => p.put "</p>\n"
  | .heading level => p.put ("</" ++ headingName level ++ ">\n")
  | .table _ => p.put "</tbody></table>\n"
  | .tableHead => { p with inHead := false }.put "</tr></thead><tbody>\n"
  | .tableRow => p.put "</tr>\n"
  | .tableCell => { p with cell := p.cell + 1 }.put (if p.inHead then "</th>" else "</td>")
  | .quote => p.put "</blockquote>\n"
  | .codeBlock _ => p.put "</code></pre>\n"
  | .list none => p.put "</ul>\n"
  | .list (some _) => p.put "</ol>\n"
  | .item => p.put "</li>\n"
  | .emphasis => p.put "</em>"
  | .strong => p.put "</strong>"
  | .strikethrough => p.put "</del>"
  | .link _ _ _ => p.put "</a>"
  | .image _ _ => (p, [])

/-- Whether a text ends with a line feed. -/
def endsLine (s : List Char) : Bool := s.getLast? == some '\n'

/-- The end of an image with a title. -/
def imageEnd (title : List Char) : List Char := titleText title ++ "\" />".toList

/-- What an event writes into the alternative text of an image. -/
def Page.altEvent (p : Page) (image : OpenImage) : Event → Page × List Char
  | .start _ => ({ p with image := some { image with depth := image.depth + 1 } }, [])
  | .stop _ =>
    if image.depth = 0 then { p with image := none }.inLine (imageEnd image.title)
    else ({ p with image := some { image with depth := image.depth - 1 } }, [])
  | .html _ => (p, [])
  | .text s => ({ p with fresh := endsLine s }, attributeText s)
  | .code s => ({ p with fresh := endsLine s }, attributeText s)
  | .inlineHtml s => ({ p with fresh := endsLine s }, attributeText s)
  | .softBreak => p.put " "
  | .hardBreak => p.put " "
  | .rule => p.put " "

/-- What an event writes. -/
def Page.event (p : Page) (e : Event) : Page × List Char :=
  match p.image with
  | some image => p.altEvent image e
  | none =>
    match e with
    | .start tag => p.start tag
    | .stop tag => p.stop tag
    | .text s => ({ p with fresh := endsLine s }, bodyText s)
    | .code s => p.inLine ("<code>".toList ++ bodyText s ++ "</code>".toList)
    | .html s => (if s.isEmpty then p else { p with fresh := endsLine s }, s)
    | .inlineHtml s => (if s.isEmpty then p else { p with fresh := endsLine s }, s)
    | .softBreak => p.put "\n"
    | .hardBreak => p.put "<br />\n"
    | .rule => p.putFresh "<hr />\n"

/-- The HTML of events after what was written before. -/
def Page.events (p : Page) : List Event → List Char
  | [] =>
    match p.image with
    | some image => imageEnd image.title
    | none => []
  | e :: rest =>
    let (next, written) := p.event e
    written ++ next.events rest

/-- The HTML of a sequence of events. -/
def write (events : List Event) : List Char := ({} : Page).events events

end DocPress.Markdown
