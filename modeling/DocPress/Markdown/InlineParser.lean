import DocPress.Markdown.Emphasis
import DocPress.Markdown.RawHtml
import DocPress.Markdown.Reference

/-!
# Reading inline content

* `codeSpan?` — a span of code; `autolink?` — an address between angle brackets.
* `Scan` — content read so far with its open brackets; `Scan.closeBracket` — a link or an image.
* `inlines` — the content of a text.
-/

namespace DocPress.Markdown

/-! ## Code and addresses -/

/-- The text up to a run of exactly `size` back quotes, and what follows it; `run` counts the back
quotes just passed. -/
def codeUntil? (size : Nat) : Nat → List Char → Option (List Char × List Char)
  | run, [] => if run = size then some ([], []) else none
  | run, c :: rest =>
    if c == '\x60' then (codeUntil? size (run + 1) rest).map fun (t, after) => (c :: t, after)
    else if run = size then some ([], c :: rest)
    else (codeUntil? size 0 rest).map fun (t, after) => (c :: t, after)

/-- The text of a code span: line ends are spaces, and one space at both ends is dropped unless there
is nothing else. -/
def codeText (s : List Char) : List Char :=
  let t := s.map fun c => if c == '\n' then ' ' else c
  if t.all (· == ' ') then t
  else if t.head? == some ' ' && t.getLast? == some ' ' then (t.drop 1).dropLast
  else t

/-- The code span opened by `size` back quotes before a text. -/
def codeSpan? (size : Nat) (s : List Char) : Option (List Char × List Char) :=
  (codeUntil? size 0 s).map fun (t, after) => (codeText (t.take (t.length - size)), after)

/-- A URI between angle brackets, without the first, and what follows. -/
def uriAutolink? (s : List Char) : Option (List Char × List Char) :=
  let scheme := s.takeWhile fun c => c.isAlphanum || c == '.' || c == '-' || c == '+'
  match s.drop scheme.length with
  | ':' :: rest =>
    if scheme.head?.any Char.isAlpha && 2 ≤ scheme.length && scheme.length ≤ 32 then
      let body := rest.takeWhile fun c => 0x20 < c.toNat && c != '<' && c != '>'
      match rest.drop body.length with
      | '>' :: after => some (scheme ++ ':' :: body, after)
      | _ => none
    else none
  | _ => none

/-- Whether a character may stand before the at sign of an e-mail address. -/
def isMailboxChar (c : Char) : Bool :=
  c.isAlphanum || ".!#$%&'*+/=?^_\x60\x7b|\x7d~-".toList.contains c

/-- Whether a text is a label of a host name. -/
def isHostLabel (label : List Char) : Bool :=
  !label.isEmpty && label.length ≤ 63 && label.head? != some '-' && label.getLast? != some '-' &&
    label.all isTagNameChar

/-- An e-mail address between angle brackets, without the first, and what follows. -/
def emailAutolink? (s : List Char) : Option (List Char × List Char) :=
  let (mailbox, rest) := s.span isMailboxChar
  match rest with
  | '@' :: host =>
    let name := host.takeWhile fun c => isTagNameChar c || c == '.'
    match host.drop name.length with
    | '>' :: after =>
      if !mailbox.isEmpty && (name.splitOn '.').all isHostLabel then
        some (mailbox ++ '@' :: name, after)
      else none
    | _ => none
  | _ => none

/-- A link to an address between angle brackets, and what follows. -/
def autolink? (s : List Char) : Option (Inline × List Char) :=
  match s with
  | '<' :: rest =>
    match uriAutolink? rest with
    | some (uri, after) => some (.link false uri [] [.text uri], after)
    | none =>
      (emailAutolink? rest).map fun (address, after) =>
        (.link true address [] [.text address], after)
  | _ => none

/-! ## Brackets -/

/-- An open bracket. -/
structure Bracket where
  image : Bool
  /-- The bracket can still become a link: there is no link inside it. -/
  active : Bool
  /-- The source after the bracket. -/
  source : List Char
  /-- Pieces before the bracket, the newest first. -/
  outer : List Piece

/-- The marks of an open bracket as text. -/
def Bracket.marks (b : Bracket) : Piece :=
  .node (.text (if b.image then ['!', '['] else ['[']))

/-- Content while it is read. -/
structure Scan where
  /-- Pieces since the innermost open bracket, the newest first. -/
  pieces : List Piece := []
  /-- Open brackets, the innermost first. -/
  brackets : List Bracket := []
  /-- Closing brackets that were tried as the end of a reference, told by the length of the source
  after them. -/
  tried : List Nat := []

/-- One more piece. -/
def Scan.add (st : Scan) (p : Piece) : Scan := { st with pieces := p :: st.pieces }

/-- More text. -/
def Scan.text (st : Scan) (s : List Char) : Scan := st.add (.node (.text s))

/-- Opens a bracket before a text. -/
def Scan.enter (st : Scan) (image : Bool) (source : List Char) : Scan :=
  { st with pieces := [], brackets := ⟨image, true, source, st.pieces⟩ :: st.brackets }

/-- The innermost bracket as text. -/
def Scan.dropBracket (st : Scan) (b : Bracket) (rest : List Bracket) : Scan :=
  { st with pieces := st.pieces ++ b.marks :: b.outer, brackets := rest }

/-- The innermost bracket as a link or an image. No link stands inside another. -/
def Scan.link (st : Scan) (b : Bracket) (rest : List Bracket) (dest title : List Char) : Scan :=
  let children := resolve st.pieces.reverse
  let node : Inline := if b.image then .image dest title children else .link false dest title children
  let brackets := if b.image then rest
    else rest.map fun x => if x.image then x else { x with active := false }
  { st with pieces := .node node :: b.outer, brackets }

/-- The label that the text inside a bracket is, up to the source `rest` after it. -/
def Bracket.label? (b : Bracket) (rest : List Char) : Option (List Char) :=
  match labelAt? some b.source with
  | some (label, after) => if after.length = rest.length then some label else none
  | none => none

/-- A closing bracket before the source `rest`: what is read, and the source after it. -/
def Scan.closeBracket (definitions : List Definition) (st : Scan) (rest : List Char) :
    Scan × List Char :=
  match st.brackets with
  | [] => (st.text [']'], rest)
  | b :: outer =>
    let failed (st : Scan) : Scan × List Char := ((st.dropBracket b outer).text [']'], rest)
    let refer (st : Scan) (label : Option (List Char)) (after : List Char) : Scan × List Char :=
      match label.bind (lookup? definitions) with
      | some d => (st.link b outer d.dest d.title, after)
      | none => failed st
    let shortcut (after : List Char) : Scan × List Char :=
      if st.tried.contains rest.length then failed st else refer st (b.label? rest) after
    if !b.active then failed st
    else
      match inlineTarget? rest with
      | some (dest, title, after) => (st.link b outer dest title, after)
      | none =>
        match rest with
        | '[' :: ']' :: after => shortcut after
        | '[' :: inner =>
          match labelAt? some inner with
          | some (label, after) =>
            refer { st with tried := after.length :: st.tried } (some label) after
          | none => shortcut rest
        | _ => shortcut rest

/-! ## Content -/

/-- Whether a character has a meaning in inline content. -/
def isSpecial (c : Char) : Bool :=
  c == '\\' || c == '\x60' || c == '<' || c == '!' || c == '[' || c == ']' || c == '&' || c == '*' ||
    c == '_' || c == '~' || c == '\n' || isBlankChar c

/-- The last character of a source before the part `after` of it. -/
def lastRead (s after : List Char) : Option Char := (s.take (s.length - after.length)).getLast?

/-- Reads what a source begins with: the content so far, and the source after it. `before` is the
character before the source. -/
def scanStep (definitions : List Definition) (before : Option Char) (st : Scan) (s : List Char) :
    Scan × List Char :=
  match s with
  | [] => (st, [])
  | c :: rest =>
    if c == '\\' then
      match rest with
      | '\n' :: more => (st.add (.node .hardBreak), dropSpaces more)
      | d :: more => if Text.isAsciiPunctuation d then (st.text [d], more) else (st.text [c], rest)
      | [] => (st.text [c], rest)
    else if c == '\x60' then
      let marks := s.takeWhile (· == '\x60')
      let inner := s.drop marks.length
      match codeSpan? marks.length inner with
      | some (code, after) => (st.add (.node (.code code)), after)
      | none => (st.text marks, inner)
    else if c == '<' then
      match autolink? s with
      | some (link, after) => (st.add (.node link), after)
      | none =>
        match inlineHtmlAt? s with
        | some after => (st.add (.node (.html (s.take (s.length - after.length)))), after)
        | none => (st.text [c], rest)
    else if c == '!' then
      match rest with
      | '[' :: more => (st.enter true more, more)
      | _ => (st.text [c], rest)
    else if c == '[' then (st.enter false rest, rest)
    else if c == ']' then st.closeBracket definitions rest
    else if c == '&' then
      match Html.entityAt? s with
      | some (chars, after) => (st.text chars, after)
      | none => (st.text [c], rest)
    else if c == '*' || c == '_' || c == '~' then
      let marks := s.takeWhile (· == c)
      let after := s.drop marks.length
      let size := marks.length
      let opens := canOpen c size before after.head?
      let closes := canClose c size before after.head?
      if (opens || closes) && !(c == '~' && 2 < size) then (st.add (.run c size opens closes), after)
      else (st.text marks, after)
    else if c == '\n' then (st.add (.node .softBreak), dropSpaces rest)
    else if isBlankChar c then
      let blanks := s.takeWhile isBlankChar
      match s.drop blanks.length with
      | [] => (st, [])
      | '\n' :: more =>
        (st.add (.node (if 2 ≤ blanks.length then .hardBreak else .softBreak)), dropSpaces more)
      | after => (st.text blanks, after)
    else
      let plain := s.takeWhile fun x => !isSpecial x
      (st.text plain, s.drop plain.length)

/-- Reads a source to its end. -/
def scanFrom (definitions : List Definition) : Nat → Option Char → Scan → List Char → Scan
  | 0, _, st, _ => st
  | fuel + 1, before, st, s =>
    if s.isEmpty then st
    else
      let (next, after) := scanStep definitions before st s
      scanFrom definitions fuel (lastRead s after) next after

/-- The pieces of a finished scan, the newest first; open brackets are text. -/
def closeAll : List Piece → List Bracket → List Piece
  | pieces, [] => pieces
  | pieces, b :: rest => closeAll (pieces ++ b.marks :: b.outer) rest

/-- The inline content of a text. -/
def inlines (definitions : List Definition) (s : List Char) : List Inline :=
  let st := scanFrom definitions s.length none {} s
  resolve (closeAll st.pieces st.brackets).reverse

end DocPress.Markdown
