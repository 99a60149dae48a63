import DocPress.Markdown.BlockParser
import DocPress.Markdown.InlineParser

/-!
# Events

A document as the sequence of what a reader meets: starts and ends of elements, and text.

* `Tag`, `Event` — elements and events.
* `Inline.events`, `Block.events` — the events of content; `eventsOf` — those of a document.

A paragraph in an item of a tight list has no element of its own.
-/

namespace DocPress.Markdown

/-- An element. -/
inductive Tag where
  | paragraph
  | heading (level : Nat)
  | quote
  | codeBlock (info : Option (List Char))
  | htmlBlock
  | list (start : Option Nat)
  | item
  | table (alignments : List Alignment)
  | tableHead
  | tableRow
  | tableCell
  | emphasis
  | strong
  | strikethrough
  | link (email : Bool) (dest title : List Char)
  | image (dest title : List Char)
  deriving DecidableEq, Repr

/-- What a reader meets. -/
inductive Event where
  | start (tag : Tag)
  | stop (tag : Tag)
  | text (content : List Char)
  | code (content : List Char)
  | html (content : List Char)
  | inlineHtml (content : List Char)
  | softBreak
  | hardBreak
  | rule
  deriving DecidableEq, Repr

/-- Events between the start and the end of an element. -/
def within (tag : Tag) (events : List Event) : List Event := .start tag :: (events ++ [.stop tag])

mutual

/-- The events of a piece of inline content. -/
def Inline.events : Inline → List Event
  | .text s => [.text s]
  | .code s => [.code s]
  | .html s => [.inlineHtml s]
  | .softBreak => [.softBreak]
  | .hardBreak => [.hardBreak]
  | .emphasis xs => within .emphasis (inlineEvents xs)
  | .strong xs => within .strong (inlineEvents xs)
  | .strikethrough xs => within .strikethrough (inlineEvents xs)
  | .link email dest title xs => within (.link email dest title) (inlineEvents xs)
  | .image dest title xs => within (.image dest title) (inlineEvents xs)

/-- The events of inline content. -/
def inlineEvents : List Inline → List Event
  | [] => []
  | x :: rest => x.events ++ inlineEvents rest

end

/-- The events of a text with inline markup. -/
def textEvents (definitions : List Definition) (s : List Char) : List Event :=
  inlineEvents (inlines definitions s)

/-- The events of the cells of a row. -/
def cellEvents (definitions : List Definition) (cells : List (List Char)) : List Event :=
  cells.flatMap fun cell => within .tableCell (textEvents definitions cell)

mutual

/-- The events of a block; `tight` if it stands in an item of a tight list. -/
def Block.events (definitions : List Definition) (tight : Bool) : Block → List Event
  | .paragraph s =>
    if tight then textEvents definitions s else within .paragraph (textEvents definitions s)
  | .heading level s => within (.heading level) (textEvents definitions s)
  | .rule => [.rule]
  | .code info lines => within (.codeBlock info) (lines.map Event.text)
  | .html lines => within .htmlBlock (lines.map Event.html)
  | .table alignments header rows =>
    within (.table alignments)
      (within .tableHead (cellEvents definitions header) ++
        rows.flatMap fun row => within .tableRow (cellEvents definitions row))
  | .quote children => within .quote (blockEvents definitions false children)
  | .list start tight items => within (.list start) (blockEvents definitions tight items)
  | .item children => within .item (blockEvents definitions tight children)

/-- The events of blocks. -/
def blockEvents (definitions : List Definition) (tight : Bool) : List Block → List Event
  | [] => []
  | b :: rest => b.events definitions tight ++ blockEvents definitions tight rest

end

/-- The events of a document. -/
def eventsOf (s : List Char) : List Event :=
  let (blocks, definitions) := parse s
  blockEvents definitions false blocks

end DocPress.Markdown
