import DocPress.Markdown.Cursor
import DocPress.Markdown.Line

/-!
# Block markers

What the beginning of a line tells about the block that it opens.

* `thematicBreak?`, `atxLevel?`, `setextUnderline?`, `codeFence?` — markers of leaf blocks.
* `ListMarker`, `listMarker?` — the marker of a list item.
* `interruptingItem` — a list item that may end a paragraph.
* `delimiterRow?` — the row under a table's header.
-/

namespace DocPress.Markdown

/-- What follows a line of at least three equal marks, with blanks between them. -/
def thematicBreak? (s : List Char) : Option (List Char) :=
  match s with
  | c :: _ =>
    if c == '*' || c == '-' || c == '_' then
      let (line, rest) := restOfLine s
      let marks := line.filter fun x => x == c
      if 3 ≤ marks.length && line.all (fun x => x == c || x == ' ' || x == '\t') then some rest
      else none
    else none
  | [] => none

/-- The level of a heading that begins with number signs. -/
def atxLevel? (s : List Char) : Option Nat :=
  let marks := s.takeWhile fun c => c == '#'
  if 1 ≤ marks.length && marks.length ≤ 6 && (s.drop marks.length).head?.all isSpaceChar then
    some marks.length
  else none

/-- The level of the heading that a line underlines, and what follows the line. -/
def setextUnderline? (s : List Char) : Option (Nat × List Char) :=
  match s with
  | c :: _ =>
    if c == '=' || c == '-' then
      (blankLine? (s.dropWhile fun x => x == c)).map fun rest => (if c == '=' then 1 else 2, rest)
    else none
  | [] => none

/-- The mark of a code fence and its length. A fence of back quotes has none after it. -/
def codeFence? (s : List Char) : Option (Char × Nat) :=
  match s with
  | c :: _ =>
    if c == '\x60' || c == '~' then
      let marks := s.takeWhile fun x => x == c
      let info := (s.drop marks.length).takeWhile fun x => x != '\n'
      if 3 ≤ marks.length && !(c == '\x60' && info.contains '\x60') then some (c, marks.length)
      else none
    else none
  | [] => none

/-- What follows the marks and spaces of a line that closes a code fence. -/
def closingFence? (mark : Char) (size : Nat) (s : List Char) : Option (List Char) :=
  let marks := s.takeWhile fun x => x == mark
  let rest := (s.drop marks.length).dropWhile fun x => x == ' '
  if size ≤ marks.length && (lineEnd? rest).isSome then some rest else none

/-! ## Lists -/

/-- The marker of a list item. -/
structure ListMarker where
  /-- A bullet, or the delimiter after a number. -/
  delimiter : Char
  /-- The number of an ordered item. -/
  start : Nat
  /-- Columns that the lines of the item are indented by. -/
  indent : Nat
  /-- The position of the item's text. -/
  content : Cursor

/-- Whether a list with this delimiter is numbered. -/
def isOrderedDelimiter (c : Char) : Bool := c == '.' || c == ')'

/-- Whether a character is a bullet. -/
def isBullet (c : Char) : Bool := c == '-' || c == '+' || c == '*'

/-- The item after its marker, which needs a column of space or the line end behind it. Text that
follows four or more columns on is indented code. -/
def afterMarker? (delimiter : Char) (start indent : Nat) (c : Cursor) : Option ListMarker :=
  match c.skip? 1 with
  | none => if c.atLineEnd then some ⟨delimiter, start, indent + 1, c⟩ else none
  | some content =>
    if (blankLine? content.rest).isSome then some ⟨delimiter, start, indent + 1, content⟩
    else
      let (columns, inner) := content.skipUpTo 4
      if columns < 4 then some ⟨delimiter, start, indent + 1 + columns, inner⟩
      else some ⟨delimiter, start, indent + 1, content⟩

/-- The list marker at a position that is indented by `outer` columns. -/
def listMarker? (outer : Nat) (c : Cursor) : Option ListMarker :=
  match c.rest with
  | x :: _ =>
    if isBullet x then
      if (thematicBreak? c.rest).isSome then none
      else afterMarker? x 0 (outer + 1) c.next
    else
      let digits := c.rest.takeWhile Char.isDigit
      if digits.isEmpty || 9 < digits.length then none
      else
        match c.rest.drop digits.length with
        | d :: rest =>
          if isOrderedDelimiter d then
            let size := digits.length + 1
            afterMarker? d (Nat.ofDigitChars 10 digits 0) (outer + size) ⟨rest, c.column + size, 0⟩
          else none
        | [] => none
  | [] => none

/-- Delimiter, number and following text of a list marker at the beginning of a text. -/
def markerAt? (s : List Char) : Option (Char × Nat × List Char) :=
  let found := match s with
    | c :: rest =>
      if isBullet c then some (c, 0, rest)
      else
        let digits := (s.take 9).takeWhile Char.isDigit
        match digits, s.drop digits.length with
        | _ :: _, d :: rest =>
          if isOrderedDelimiter d then some (d, Nat.ofDigitChars 10 digits 0, rest) else none
        | _, _ => none
    | [] => none
  found.filter fun (_, _, rest) => rest.head?.all fun c => c == ' ' || c == '\t' || c == '\n' || c == '\r'

/-- Whether the rest of a line and the line after it are blank. -/
def startsEmptyItem (s : List Char) : Bool := ((blankLine? s).bind blankLine?).isSome

/-- Whether a list item begins that ends the paragraph before it: a bullet or the number one, and not
an empty item; `anyItem` lifts the condition. -/
def interruptingItem (anyItem : Bool) (s : List Char) : Bool :=
  match markerAt? s with
  | some (delimiter, start, rest) =>
    anyItem || ((isBullet delimiter || start == 1) && !startsEmptyItem rest)
  | none => false

/-! ## Tables -/

/-- How a column of a table is aligned. -/
inductive Alignment where
  | none
  | left
  | center
  | right
  deriving DecidableEq, Repr

/-- A column of a delimiter row while it is read. -/
structure DelimiterColumn where
  alignment : Alignment := .none
  fresh : Bool := true
  dashed : Bool := false

/-- A colon in a column. -/
def DelimiterColumn.colon (c : DelimiterColumn) : DelimiterColumn :=
  let alignment := match c.fresh, c.alignment with
    | true, .none => .left
    | false, .left => .center
    | false, .none => .right
    | _, a => a
  { c with alignment, fresh := false }

/-- The alignments of the columns left in a delimiter row. Each column that a pipe ends has a hyphen. -/
def delimiterColumns? (c : DelimiterColumn) : List Char → Option (List Alignment)
  | [] => some (if c.fresh then [] else [c.alignment])
  | x :: rest =>
    if x = ' ' then delimiterColumns? c rest
    else if x = ':' then delimiterColumns? c.colon rest
    else if x = '-' then delimiterColumns? { c with fresh := false, dashed := true } rest
    else if x = '|' then
      if c.dashed then (delimiterColumns? {} rest).map (c.alignment :: ·) else Option.none
    else Option.none

/-- The alignments given by a delimiter row, which has a pipe and a hyphen, and what follows it. -/
def delimiterRow? (s : List Char) : Option (List Alignment × List Char) :=
  let (columns, c) := (Cursor.mk s 0 0).skipUpTo 4
  let (line, rest) := restOfLine c.rest
  if 3 < columns || line.isEmpty || !line.contains '|' || !line.contains '-' then Option.none
  else
    let inner := match line with
      | '|' :: more => more
      | _ => line
    (delimiterColumns? {} inner).map fun alignments => (alignments, rest)

end DocPress.Markdown
