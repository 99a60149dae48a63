import DocPress.Markdown.Block
import DocPress.Markdown.Reference

/-!
# Open containers

A document is read line by line, with the containers that the line stands in open.

* `Frame` — a kind of open container; `matchFrames` — how many of them a line continues.
* `Outline` — the document read so far: open containers, finished blocks and link definitions.
* `Outline.add`, `Outline.close` — a finished block, and the end of the innermost container.
* `Outline.endList`, `Outline.joinList` — what a block other than an item, and an item, do to the
  list before them.
-/

namespace DocPress.Markdown

/-- A kind of open container. -/
inductive Frame where
  | quote
  | list (delimiter : Char) (start : Nat) (tight : Bool)
  /-- An item, whose lines are indented by so many columns. -/
  | item (indent : Nat)

/-- Whether a position continues a container, and the position after what shows it. -/
def matchFrame? (frame : Frame) (c : Cursor) : Option Cursor :=
  match frame with
  | .quote =>
    let (_, inner) := c.skipUpTo 3
    match inner.rest with
    | '>' :: _ => some ((inner.next.skip? 1).getD inner.next)
    | _ => none
  | .list _ _ _ => some c
  | .item indent =>
    match c.skip indent with
    | (0, next) => some next
    | (_, next) => if next.atLineEnd then some next else none

/-- The number of containers, the outermost first, that a line continues, and the position after. -/
def matchFrames : List Frame → Cursor → Nat × Cursor
  | [], c => (0, c)
  | frame :: rest, c =>
    match matchFrame? frame c with
    | none => (0, c)
    | some next =>
      let (n, last) := matchFrames rest next
      (n + 1, last)

/-- Whether a line continues all containers, and the position after those that it continues. -/
def continues (frames : List Frame) (line : List Char) : Bool × Cursor :=
  let (n, c) := matchFrames frames ⟨line, 0, 0⟩
  (n == frames.length, c)

/-- An open container with its finished children, the newest first. -/
structure OpenBlock where
  frame : Frame
  children : List Block

/-- The block that an open container becomes. -/
def OpenBlock.finish (b : OpenBlock) : Block :=
  match b.frame with
  | .quote => .quote b.children.reverse
  | .list delimiter start tight =>
    .list (if isOrderedDelimiter delimiter then some start else none) tight b.children.reverse
  | .item _ => .item b.children.reverse

/-- A document while it is read. -/
structure Outline where
  /-- Open containers, the innermost first. -/
  spine : List OpenBlock := []
  /-- Finished blocks outside all containers, the newest first. -/
  done : List Block := []
  /-- Link definitions, the newest first. -/
  definitions : List Definition := []
  /-- The last line was blank. -/
  afterBlank : Bool := false
  /-- The innermost item began with a blank line and has no text yet. -/
  emptyItem : Bool := false

/-- The open containers, the outermost first. -/
def Outline.frames (o : Outline) : List Frame := (o.spine.map OpenBlock.frame).reverse

/-- A finished block in the innermost container. -/
def Outline.add (o : Outline) (b : Block) : Outline :=
  match o.spine with
  | [] => { o with done := b :: o.done }
  | top :: rest => { o with spine := { top with children := b :: top.children } :: rest }

/-- A new innermost container. -/
def Outline.enter (o : Outline) (frame : Frame) : Outline :=
  { o with spine := ⟨frame, []⟩ :: o.spine }

/-- The end of the innermost container. -/
def Outline.close (o : Outline) : Outline :=
  match o.spine with
  | [] => o
  | top :: rest =>
    let emptyItem := match top.frame with
      | .list _ _ true => false
      | _ => o.emptyItem
    { o with spine := rest, emptyItem }.add top.finish

/-- The end of the innermost containers, so many of them. -/
def Outline.closeMany : Nat → Outline → Outline
  | 0, o => o
  | n + 1, o => closeMany n o.close

/-- The kind of the innermost container. -/
def Outline.innermost? (o : Outline) : Option Frame := o.spine.head?.map OpenBlock.frame

/-- An item that began with a blank line ends if another one follows. -/
def Outline.endEmptyItem (o : Outline) : Outline :=
  let ended := match o.innermost? with
    | some (.item _) => if o.emptyItem && o.afterBlank then o.close else o
    | _ => o
  { ended with emptyItem := false }

/-- A list with blank lines between its items or their blocks. -/
def OpenBlock.loosen (b : OpenBlock) : OpenBlock :=
  match b.frame with
  | .list delimiter start _ => { b with frame := .list delimiter start false }
  | _ => b

/-- Before a block that is no item: an open list without an open item ends, and a blank line before
the block makes the list of the item that it stands in loose. -/
def Outline.endList (o : Outline) : Outline :=
  let o := o.endEmptyItem
  let o := match o.innermost? with
    | some (.list _ _ _) => o.close
    | _ => o
  let spine := match o.afterBlank, o.spine with
    | true, top :: parent :: rest => top :: parent.loosen :: rest
    | _, s => s
  { o with spine, afterBlank := false }

/-- Before an item: the open list goes on if it has the same delimiter, else a new one begins. -/
def Outline.joinList (o : Outline) (delimiter : Char) (start : Nat) : Outline :=
  let o := o.endEmptyItem
  let fresh (o : Outline) : Outline := { o.enter (.list delimiter start true) with afterBlank := false }
  match o.spine with
  | [] => fresh o
  | top :: rest =>
    match top.frame with
    | .list old _ _ =>
      if old = delimiter then
        if o.afterBlank then { o with spine := top.loosen :: rest, afterBlank := false } else o
      else fresh o.endList
    | _ => fresh o.endList

end DocPress.Markdown
