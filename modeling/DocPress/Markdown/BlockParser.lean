import DocPress.Markdown.Container
import DocPress.Markdown.RawHtml

/-!
# Reading blocks

* `paragraphEnds` — what ends a paragraph without a blank line.
* `paragraphFrom`, `codeFrom`, `fencedFrom`, `htmlFrom`, `tableRows` — the lines of leaf blocks.
* `definition?` — a link reference definition.
* `step` — one block, or one line that only opens containers; `parse` — a document.
-/

namespace DocPress.Markdown

/-! ## What ends a paragraph -/

/-- Whether a line, tables left aside, ends the paragraph before it; `anyItem` if any list item does. -/
def paragraphEnds (anyItem : Bool) (s : List Char) : Bool :=
  (lineEnd? s).isSome || (thematicBreak? s).isSome || (atxLevel? s).isSome ||
    (codeFence? s).isSome || s.head? == some '>' || interruptingItem anyItem s ||
    (match s with
     | '<' :: rest => (blockEnd? rest).isSome || startsBlockTag rest
     | _ => false)

/-- The pipes of a line that are not escaped, counted, and what follows the last of them. -/
def countPipes : Nat → List Char → Nat × List Char → Nat × List Char
  | _, [], found => found
  | skip + 1, _ :: rest, found => countPipes skip rest found
  | 0, c :: rest, (n, after) =>
    if c == '\\' then countPipes 1 rest (n, after)
    else if c == '|' then countPipes 0 rest (n + 1, rest)
    else countPipes 0 rest (n, after)

/-- The number of columns of a header row; none if it has no pipe. -/
def headerColumns? (line : List Char) : Option Nat :=
  match countPipes 0 line (0, []) with
  | (0, _) => none
  | (pipes, after) =>
    let leading := if (line.dropWhile isBlankChar).head? == some '|' then 1 else 0
    let trailing := if after.all isBlankChar then 0 else 1
    some (pipes - leading + trailing)

/-- Whether a line ends in a backslash that escapes its line end. -/
def endsInBackslash (line : List Char) : Bool :=
  (line.reverse.takeWhile fun c => c == '\\').length % 2 == 1

/-- The alignments of a table whose header row begins a text, and what follows its delimiter row. -/
def tableHead? (frames : List Frame) (s : List Char) : Option (List Alignment × List Char) := do
  let (line, next) := restOfLine s
  let columns ← headerColumns? line
  if endsInBackslash line then none
  let (inside, c) := continues frames next
  if !inside then none
  let (alignments, rest) ← delimiterRow? c.rest
  if alignments.length = columns then some (alignments, rest) else none

/-- Whether a line ends the paragraph before it. A table does if its header begins with a pipe. -/
def interrupts (frames : List Frame) (inside : Bool) (s : List Char) : Bool :=
  paragraphEnds (!inside) s || (s.head? == some '|' && (tableHead? frames s).isSome)

/-! ## Leaf blocks -/

/-- The lines of a paragraph from a line on, the level of the heading that it turns out to be, and
what follows it. A line that continues no container may still continue the paragraph. -/
def paragraphFrom (frames : List Frame) :
    Nat → List Char → List (List Char) × Option Nat × List Char
  | 0, s => ([], none, s)
  | fuel + 1, s =>
    let (inside, c) := continues frames s
    let (missing, inner) := c.skip 4
    let underline := if missing ≠ 0 && inside then setextUnderline? inner.rest else none
    match underline with
    | some (level, rest) => ([], some level, rest)
    | none =>
      if missing ≠ 0 && interrupts frames inside inner.rest then ([], none, s)
      else if (lineEnd? (dropSpaces c.rest)).isSome then ([], none, s)
      else
        let (line, next) := restOfLine c.rest
        let (lines, level, rest) := paragraphFrom frames fuel next
        (line :: lines, level, rest)

/-- Lines of code from a position on, each with whether it is blank, and what follows them. -/
def codeFrom (frames : List Frame) : Nat → Cursor → List (List Char × Bool) × List Char
  | 0, c => ([], c.rest)
  | fuel + 1, c =>
    let (line, next) := verbatimLine c.rest
    let entry := (List.replicate c.pending ' ' ++ line, (blankLine? c.rest).isSome)
    if next.isEmpty then ([entry], next)
    else
      let (inside, d) := continues frames next
      let (missing, inner) := d.skip 4
      if inside && (missing = 0 || inner.atLineEnd) then
        let (more, rest) := codeFrom frames fuel inner
        (entry :: more, rest)
      else ([entry], next)

/-- The lines of a fenced block of code up to its closing fence or the end of its container. -/
def fencedFrom (frames : List Frame) (indent : Nat) (mark : Char) (size : Nat) :
    Nat → List Char → List (List Char) × List Char
  | 0, s => ([], s)
  | fuel + 1, s =>
    if s.isEmpty then ([], s)
    else
      let (inside, c) := continues frames s
      if !inside then ([], s)
      else
        let (_, c) := c.skip indent
        let (missing, inner) := c.skip (4 - indent)
        let closing := if missing ≠ 0 then closingFence? mark size inner.rest else none
        match closing with
        | some rest => ([], (blankLine? rest).getD rest)
        | none =>
          let (line, next) := verbatimLine c.rest
          let (lines, rest) := fencedFrom frames indent mark size fuel next
          ((List.replicate c.pending ' ' ++ line) :: lines, rest)

/-- Whether a text holds a pattern. -/
def holds (pattern : List Char) (s : List Char) : Bool := (afterPattern? pattern s).isSome

/-- The lines of a block of HTML from a position on: up to the line that holds the closing string, or
without one up to a blank line. -/
def htmlFrom (frames : List Frame) (stop : Option (List Char)) :
    Nat → Nat → List Char → List (List Char) × List Char
  | 0, _, s => ([], s)
  | fuel + 1, indent, s =>
    let (line, next) := verbatimLine s
    let entry := List.replicate indent ' ' ++ line
    let (inside, c) := continues frames next
    let ends := match stop with
      | some pattern => holds pattern line || c.rest.isEmpty
      | none => c.atLineEnd || (blankLine? c.rest).isSome
    if !inside || ends then ([entry], next)
    else
      let (lines, rest) := htmlFrom frames stop fuel c.pending c.rest
      (entry :: lines, rest)

/-- A text up to a pipe without a backslash before it, and what follows. -/
def cellText : List Char → List Char × List Char
  | [] => ([], [])
  | '\\' :: '|' :: rest =>
    let (cell, after) := cellText rest
    ('|' :: cell, after)
  | '|' :: rest => ([], '|' :: rest)
  | c :: rest =>
    let (cell, after) := cellText rest
    (c :: cell, after)

/-- The cells of a row. -/
def rowCells : Nat → List Char → List (List Char)
  | 0, _ => []
  | fuel + 1, s =>
    let inner := match s with
      | '|' :: rest => rest
      | _ => s
    match inner.dropWhile isBlankChar with
    | [] => []
    | text =>
      let (cell, rest) := cellText text
      cell :: rowCells fuel rest

/-- The cells of a row, filled up or cut to so many. -/
def rowOf (columns : Nat) (line : List Char) : List (List Char) :=
  let cells := (rowCells line.length line).take columns
  cells ++ List.replicate (columns - cells.length) []

/-- The rows of a table from a line on, and what follows them. -/
def tableRows (frames : List Frame) (columns : Nat) :
    Nat → List Char → List (List (List Char)) × List Char
  | 0, s => ([], s)
  | fuel + 1, s =>
    let (inside, c) := continues frames s
    let text := dropSpaces c.rest
    if !inside || paragraphEnds true text then ([], s)
    else
      let (line, next) := restOfLine text
      let (rows, rest) := tableRows frames columns fuel next
      (rowOf columns line :: rows, rest)

/-- The text of a heading without the number signs that close it. -/
def atxText (line : List Char) : List Char :=
  let text := (line.reverse.dropWhile fun c => c == ' ').reverse
  let inner := (text.reverse.dropWhile fun c => c == '#').reverse
  if inner.isEmpty then []
  else
    let trimmed := (inner.reverse.dropWhile fun c => c == ' ').reverse
    if trimmed.length < inner.length then trimmed else text

/-! ## Link definitions -/

/-- The text of the next line of a definition, if it may go on there. -/
def definitionLine? (frames : List Frame) (s : List Char) : Option (List Char) :=
  let (inside, c) := continues frames s
  if !inside && (interrupts frames inside c.rest || (setextUnderline? c.rest).isSome) then none
  else some c.rest

/-- The text of the next line of a definition's label. -/
def labelLine? (frames : List Frame) (s : List Char) : Option (List Char) :=
  let (inside, c) := continues frames s
  if interrupts frames inside c.rest || (setextUnderline? c.rest).isSome then none else some c.rest

/-- Skips blanks with at most one line end among them, if text follows; the first result counts line
ends. -/
def definitionSpace? (frames : List Frame) (s : List Char) : Option (Nat × List Char) :=
  let t := s.dropWhile isBlankChar
  match lineEnd? t with
  | none => some (0, t)
  | some [] => none
  | some next => do
    let line ← definitionLine? frames next
    let u := line.dropWhile isBlankChar
    if (lineEnd? u).isSome then none else some (1, u)

/-- The title of a definition up to its closing character, and what follows. -/
def definitionTitle? (frames : List Frame) (close : Char) :
    Nat → List Char → Option (List Char × List Char)
  | 0, _ => none
  | _, [] => none
  | fuel + 1, c :: rest =>
    if c == close then some ([], rest)
    else if c == '\\' then
      match rest with
      | d :: more =>
        (definitionTitle? frames close fuel more).map fun (t, after) => (c :: d :: t, after)
      | [] => none
    else if c == '\n' || c == '\r' then do
      let line ← (lineEnd? (c :: rest)).bind (definitionLine? frames)
      if (blankLine? line).isSome then none
      let (t, after) ← definitionTitle? frames close fuel line
      some ('\n' :: t, after)
    else (definitionTitle? frames close fuel rest).map fun (t, after) => (c :: t, after)

/-- The link definition that a text begins with, and what follows it. -/
def definition? (frames : List Frame) (s : List Char) : Option (Definition × List Char) := do
  let label ← match s with
    | '[' :: rest => some rest
    | _ => none
  let (name, s) ← labelAt? (labelLine? frames) label
  let s ← match s with
    | ':' :: rest => some rest
    | _ => none
  let (_, target) ← definitionSpace? frames s
  let (dest, s) ← destination? target
  if s.length = target.length then none
  let plain : Definition := ⟨labelKey name, unescape dest, []⟩
  let lineDone := (blankLine? s).isSome
  let withTitle : Option (Definition × List Char) := do
    let (breaks, t) ← definitionSpace? frames s
    if breaks = 0 && t.length = s.length then none
    match t with
    | c :: rest =>
      let close ← titleClose? c
      let (title, after) ← definitionTitle? frames close (rest.length + 1) rest
      let next ← blankLine? after
      some ({ plain with title := unescape title }, next)
    | [] => none
  match withTitle with
  | some found => some found
  | none => if lineDone then some (plain, (blankLine? s).getD s) else none

/-! ## Steps -/

/-- Opens the containers that a line begins; done if the line holds nothing more. -/
def openContainers : Nat → Outline → Cursor → Outline × Cursor × Bool
  | 0, o, c => (o, c, false)
  | fuel + 1, o, c =>
    let (outer, inner) := c.skipUpTo 4
    if 4 ≤ outer then (o, c, false)
    else
      match listMarker? outer inner with
      | some marker =>
        let o := (o.joinList marker.delimiter marker.start).enter (.item marker.indent)
        if (blankLine? marker.content.rest).isSome then
          ({ o with emptyItem := true }, marker.content, true)
        else openContainers fuel o marker.content
      | none =>
        match inner.rest with
        | '>' :: _ =>
          let after := (inner.next.skip? 1).getD inner.next
          openContainers fuel (o.endList.enter .quote) after
        | _ => (o, c, false)

/-- A blank line. An item that has no text yet holds no more indented lines. -/
def Outline.blank (o : Outline) : Outline :=
  match o.spine with
  | top :: rest =>
    match top.frame with
    | .quote => o
    | .item _ =>
      let top := if o.emptyItem then { top with frame := .item 0 } else top
      { o with spine := top :: rest, afterBlank := true }
    | .list _ _ _ => { o with afterBlank := true }
  | [] => { o with afterBlank := true }

/-- A paragraph, a heading underlined on the next line, or a table. -/
def paragraphStep (o : Outline) (s : List Char) : Outline × List Char :=
  let o := o.endList
  let frames := o.frames
  let (line, next) := restOfLine s
  match tableHead? frames s with
  | some (alignments, rest) =>
    let columns := alignments.length
    let (rows, rest) := tableRows frames columns rest.length rest
    (o.add (.table alignments (rowOf columns line) rows), rest)
  | none =>
    let (lines, level, rest) := paragraphFrom frames (next.length + 1) next
    let text := ['\n'].intercalate (line :: lines)
    match level with
    | some level => (o.add (.heading level text), rest)
    | none => (o.add (.paragraph text), rest)

/-- Indented code. Blank lines at its end do not belong to it. -/
def codeStep (o : Outline) (c : Cursor) : Outline × List Char :=
  let o := o.endList
  let (entries, rest) := codeFrom o.frames (c.rest.length + 1) c
  let kept := (entries.reverse.dropWhile Prod.snd).reverse
  let endsBlank := entries.getLast?.any Prod.snd
  ({ o.add (.code none (kept.map Prod.fst)) with afterBlank := endsBlank }, rest)

/-- Fenced code. -/
def fenceStep (o : Outline) (indent : Nat) (mark : Char) (size : Nat) (s : List Char) :
    Outline × List Char :=
  let o := o.endList
  let (infoLine, next) := verbatimLine ((s.drop size).dropWhile isBlankChar)
  let info := unescape ((infoLine.reverse.dropWhile isSpaceChar).reverse)
  let (lines, rest) := fencedFrom o.frames indent mark size (next.length + 1) next
  (o.add (.code (some info) lines), rest)

/-- A block of HTML. -/
def htmlStep (o : Outline) (stop : Option (List Char)) (indent : Nat) (s : List Char) :
    Outline × List Char :=
  let o := o.endList
  let (lines, rest) := htmlFrom o.frames stop (s.length + 1) indent s
  (o.add (.html lines), rest)

/-- The block of HTML that a text opens: its closing string, if it has one. -/
def htmlStart? (s : List Char) : Option (Option (List Char)) :=
  match s with
  | '<' :: rest =>
    match blockEnd? rest with
    | some stop => some (some stop)
    | none => if startsBlockTag rest || startsLoneTag s then some none else none
  | _ => none

/-- A leaf block that is indented by so many columns, fewer than four. -/
def leafStep (o : Outline) (indent : Nat) (s : List Char) : Outline × List Char :=
  match htmlStart? s with
  | some stop => htmlStep o stop indent s
  | none =>
    match thematicBreak? s with
    | some rest => (o.endList.add .rule, rest)
    | none =>
      match atxLevel? s with
      | some level =>
        let (line, rest) := restOfLine (s.drop level)
        (o.endList.add (.heading level (atxText (line.dropWhile isBlankChar))), rest)
      | none =>
        match codeFence? s with
        | some (mark, size) => fenceStep o indent mark size s
        | none =>
          match definition? o.frames s with
          | some (definition, rest) =>
            ({ o with definitions := definition :: o.definitions }, rest)
          | none => paragraphStep o s

/-- Reads one block, or a line that only opens containers. -/
def step (o : Outline) (s : List Char) : Outline × List Char :=
  let frames := o.frames
  let (matched, c) := matchFrames frames ⟨s, 0, 0⟩
  let o := o.closeMany (frames.length - matched)
  let (o, c, done) := openContainers (c.rest.length + 1) o c
  if done then (o, (blankLine? c.rest).getD [])
  else
    match blankLine? c.rest with
    | some rest => (o.blank, rest)
    | none =>
      let (indent, inner) := c.skipUpTo 4
      if indent = 4 then codeStep o inner else leafStep o indent inner.rest

/-- Reads a document from a line on. -/
def run : Nat → Outline → List Char → Outline
  | 0, o, _ => o
  | fuel + 1, o, s =>
    if s.isEmpty then o
    else
      let (next, rest) := step o s
      run fuel next rest

/-- The blocks of a document, and its link definitions in order. -/
def parse (s : List Char) : List Block × List Definition :=
  let o := run s.length {} s
  let o := o.closeMany o.spine.length
  (o.done.reverse, o.definitions.reverse)

end DocPress.Markdown
