import DocPress.Comment.Block
import DocPress.Markdown.Writer
import DocPress.Text.Lines
import DocPress.Text.White

/-!
# Markdown comments

* `isSafeDestination` — a link destination that is relative or has one of the allowed schemes.
* `guardEvent` — an event with raw HTML as text, unsafe destinations removed and headings moved two
  levels down.
* `html` — a comment in HTML.
* `blocks` — a comment as blocks of text; items of lists are paragraphs that begin with a hyphen,
  and so are rows of tables without it.

Specification: section 10.3, second markup engine: `render_html`, and the blocks for `render_text`.
-/

namespace DocPress.Comment.Markdown

open DocPress.Markdown

/-! ## HTML -/

/-- The schemes that links may have. -/
def safeSchemes : List (List Char) :=
  ["http".toList, "https".toList, "ftp".toList, "mailto".toList]

/-- Whether a character is a space or a control of ASCII. -/
def isSkipped (c : Char) : Bool := c.toNat ≤ 0x20 || c == '\x7f'

/-- Whether a destination has no scheme or an allowed one. It has none if a slash, question mark or
number sign comes before any colon. -/
def isSafeDestination (dest : List Char) : Bool :=
  let (head, rest) := (dest.dropWhile isSkipped).span
    fun c => !(c == ':' || c == '/' || c == '?' || c == '#')
  match rest with
  | ':' :: _ => safeSchemes.contains (head.map Char.toLower)
  | _ => true

/-- A destination, or the top of the page instead of an unsafe one. -/
def safeDestination (dest : List Char) : List Char :=
  if isSafeDestination dest then dest else ['#']

/-- The level of a heading inside a comment. -/
def shiftLevel (level : Nat) : Nat := min (level + 2) 6

/-- An element that is safe to show. -/
def guardTag : Tag → Tag
  | .heading level => .heading (shiftLevel level)
  | .link email dest title => .link email (safeDestination dest) title
  | .image dest title => .image (safeDestination dest) title
  | tag => tag

/-- An event that is safe to show. -/
def guardEvent : Event → Event
  | .start tag => .start (guardTag tag)
  | .stop tag => .stop (guardTag tag)
  | .html s => .text s
  | .inlineHtml s => .text s
  | e => e

/-- A comment in HTML. -/
def html (text : List Char) : List Char := write ((eventsOf text).map guardEvent)

/-! ## Text -/

/-- Blocks while events are read. -/
structure Lowering where
  /-- Finished blocks, the newest first. -/
  done : List Block := []
  /-- Text of the current block. -/
  current : List Char := []
  /-- Text of the current block of code. -/
  code : Option (List Char) := none

/-- The current text as a paragraph, unless it is blank or the mark of an item alone. -/
def Lowering.flush (l : Lowering) : Lowering :=
  let text := Text.trim l.current
  let done := if text.isEmpty || text == ['-'] then l.done else .para [text] :: l.done
  { l with current := [], done }

/-- More text. -/
def Lowering.put (l : Lowering) (s : List Char) : Lowering :=
  match l.code with
  | some body => { l with code := some (body ++ s) }
  | none => { l with current := l.current ++ s }

/-- The start of an element. -/
def Lowering.start (l : Lowering) : Tag → Lowering
  | .codeBlock _ => { l.flush with code := some [] }
  | .heading _ => l.flush
  | .item => { l.flush with current := "- ".toList }
  | _ => l

/-- The end of an element. -/
def Lowering.stop (l : Lowering) : Tag → Lowering
  | .codeBlock _ =>
    match l.code with
    | some body => { l with code := none, done := .pre (Text.lines body) :: l.done }
    | none => l
  | .heading _ =>
    let title := Text.trim l.current
    { l with current := [], done := if title.isEmpty then l.done else .heading title :: l.done }
  | .paragraph => l.flush
  | .item => l.flush
  | .tableHead => l.flush
  | .tableRow => l.flush
  | .tableCell => { l with current := l.current ++ [' '] }
  | _ => l

/-- One more event. -/
def Lowering.event (l : Lowering) : Event → Lowering
  | .start tag => l.start tag
  | .stop tag => l.stop tag
  | .text s => l.put s
  | .code s => l.put s
  | .html s => l.put s
  | .inlineHtml s => l.put s
  | .softBreak => { l with current := l.current ++ [' '] }
  | .hardBreak => { l with current := l.current ++ [' '] }
  | .rule => l

/-- The blocks of a sequence of events. -/
def blocksOf (events : List Event) : List Block :=
  (events.foldl Lowering.event {}).flush.done.reverse

/-- The blocks of a comment. -/
def blocks (text : List Char) : List Block := blocksOf (eventsOf text)

end DocPress.Comment.Markdown
