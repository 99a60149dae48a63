import DocPress.Markdown.Inline
import DocPress.Text.Punctuation
import DocPress.Text.White

/-!
# Emphasis

Runs of `*`, `_` and `~` open and close emphasis depending on the characters beside them.

* `canOpen`, `canClose` — what a run may do.
* `Piece` — inline content with its runs not yet matched; `resolve` — the content with each closing
  run matched to the nearest opening run that fits.
-/

namespace DocPress.Markdown

/-- Whether runs of this mark may open and close inside a word. -/
def isIntraword (mark : Char) (size : Nat) : Bool := mark == '*' || (mark == '~' && 1 < size)

/-- Whether a run between two characters may open emphasis; `none` stands for the end of the text,
and for the beginning of a line. -/
def canOpen (mark : Char) (size : Nat) (before after : Option Char) : Bool :=
  match after with
  | none => false
  | some next =>
    if Text.isWhite next then false
    else if isIntraword mark size && !Text.isPunctuation next then true
    else if mark == '~' && 1 < size then true
    else
      match before with
      | none => true
      | some prev =>
        (mark == '~' && prev == '~' && !Text.isPunctuation next) || Text.isWhite prev ||
          Text.isPunctuation prev

/-- Whether a run between two characters may close emphasis. -/
def canClose (mark : Char) (size : Nat) (before after : Option Char) : Bool :=
  match before with
  | none => false
  | some prev =>
    if Text.isWhite prev then false
    else
      match after with
      | none => true
      | some next =>
        (isIntraword mark size && !Text.isPunctuation prev) || (mark == '~' && prev == '~') ||
          Text.isWhite next || Text.isPunctuation next

/-- Inline content before emphasis is resolved. -/
inductive Piece where
  | node (content : Inline)
  /-- A run of marks with what it may do. -/
  | run (mark : Char) (size : Nat) (opens closes : Bool)

/-- A run that may open emphasis, with the content after it. -/
structure Opener where
  mark : Char
  /-- Marks not matched yet. -/
  left : Nat
  /-- Marks of the whole run. -/
  size : Nat
  /-- The run may close as well. -/
  both : Bool
  /-- A later run of tildes has looked in vain, which hides the run from all others. -/
  hidden : Bool
  /-- Content after the run, the newest first. -/
  inner : List Inline

/-- Content with open runs. -/
structure Nesting where
  /-- Content before all open runs, the newest first. -/
  base : List Inline := []
  /-- Open runs, the innermost first. -/
  openers : List Opener := []

/-- One more piece of content. -/
def Nesting.add (n : Nesting) (x : Inline) : Nesting :=
  match n.openers with
  | [] => { n with base := x :: n.base }
  | top :: rest => { n with openers := { top with inner := x :: top.inner } :: rest }

/-- Marks as text. -/
def marksText (mark : Char) (count : Nat) : Inline := .text (List.replicate count mark)

/-- The content of unmatched runs, the innermost first, and of their marks as text; newest first. -/
def flattenOpeners : List Opener → List Inline
  | [] => []
  | o :: rest => o.inner ++ marksText o.mark o.left :: flattenOpeners rest

/-- Whether a closing run matches an opening one. Tildes need runs of one size; if one of the runs
could both open and close, their sizes must not add up to a multiple of three. -/
def runsMatch (mark : Char) (size : Nat) (both : Bool) (o : Opener) : Bool :=
  o.mark == mark && !(mark == '~' && (o.hidden || o.size != size)) &&
    ((!both && !o.both) || (size + o.size) % 3 != 0 || size % 3 == 0)

/-- Strong emphasis inside for each pair of marks, and emphasis around it for one left over. -/
def wrapMarks : Nat → List Inline → List Inline
  | 0, content => content
  | 1, content => [.emphasis content]
  | n + 2, content => wrapMarks n [.strong content]

/-- Content between matched marks. -/
def wrap (mark : Char) (count : Nat) (content : List Inline) : List Inline :=
  if mark == '~' then [.strikethrough content] else wrapMarks count content

/-- Hides the open runs of tildes. -/
def Nesting.hideTildes (n : Nesting) : Nesting :=
  { n with openers := n.openers.map fun o => if o.mark == '~' then { o with hidden := true } else o }

/-- Matches a closing run, `left` marks of which are open, as long as it can; the first result is the
number of marks that stay. -/
def Nesting.closeRun (mark : Char) (size : Nat) (both : Bool) : Nat → Nat → Nesting → Nat × Nesting
  | 0, left, n => (left, n)
  | fuel + 1, left, n =>
    if left = 0 then (0, n)
    else
      match n.openers.span fun o => !runsMatch mark size both o with
      | (_, []) => (left, if mark == '~' then n.hideTildes else n)
      | (above, o :: below) =>
        let count := min left o.left
        let content := (flattenOpeners above ++ o.inner).reverse
        let matched := wrap mark count content
        let next : Nesting :=
          if count < o.left then
            { n with openers := { o with left := o.left - count, inner := matched } :: below }
          else matched.foldl Nesting.add { n with openers := below }
        closeRun mark size both fuel (left - count) next

/-- One more piece. -/
def Nesting.piece (n : Nesting) : Piece → Nesting
  | .node x => n.add x
  | .run mark size opens closes =>
    let both := opens && closes
    let (left, n) := if closes then n.closeRun mark size both size size else (size, n)
    if left = 0 then n
    else if opens then
      { n with openers := ⟨mark, left, size, both, false, []⟩ :: n.openers }
    else n.add (marksText mark left)

/-- The content of pieces, with emphasis. -/
def resolve (pieces : List Piece) : List Inline :=
  let n := pieces.foldl Nesting.piece {}
  (flattenOpeners n.openers ++ n.base).reverse

end DocPress.Markdown
