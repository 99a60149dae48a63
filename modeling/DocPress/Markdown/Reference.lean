import DocPress.Html.Entity
import DocPress.Markdown.Line
import DocPress.Text.CaseFold
import DocPress.Text.Punctuation

/-!
# Link targets and labels

* `unescape` — a text with its backslash escapes and character references resolved.
* `destination?`, `inlineTitle?`, `inlineTarget?` — the parts of the target of a link.
* `labelAt?` — the label between brackets; `labelKey` — what two labels of one link share.
* `Definition`, `lookup?` — a link reference definition, and the first one for a label.
-/

namespace DocPress.Markdown

/-- A text with escapes resolved, from after `skip` further characters. -/
def unescapeFrom : Nat → List Char → List Char
  | _, [] => []
  | skip + 1, _ :: rest => unescapeFrom skip rest
  | 0, '\\' :: c :: rest =>
    if Text.isAsciiPunctuation c then c :: unescapeFrom 0 rest else '\\' :: unescapeFrom 0 (c :: rest)
  | 0, '&' :: rest =>
    match Html.entityAt? ('&' :: rest) with
    | some (chars, after) => chars ++ unescapeFrom (rest.length - after.length) rest
    | none => '&' :: unescapeFrom 0 rest
  | 0, '\r' :: rest => unescapeFrom 0 rest
  | 0, c :: rest => c :: unescapeFrom 0 rest

/-- A text with its backslash escapes and character references resolved. -/
def unescape (s : List Char) : List Char := unescapeFrom 0 s

/-! ## Destinations and titles -/

/-- Nested parentheses that a destination may open. -/
def maxNesting : Nat := 32

/-- A destination between angle brackets, without the first of them. -/
def pointyDestination? : List Char → Option (List Char × List Char)
  | [] => none
  | '\\' :: c :: rest =>
    if Text.isAsciiPunctuation c then
      (pointyDestination? rest).map fun (dest, after) => ('\\' :: c :: dest, after)
    else
      (pointyDestination? (c :: rest)).map fun (dest, after) => ('\\' :: dest, after)
  | c :: rest =>
    if c == '\n' || c == '\r' || c == '<' then none
    else if c == '>' then some ([], rest)
    else (pointyDestination? rest).map fun (dest, after) => (c :: dest, after)

/-- A bare destination: up to a blank or control, with balanced parentheses; `nested` of them are
open. -/
def bareDestination? (nested : Nat) : List Char → Option (List Char × List Char)
  | [] => if nested = 0 then some ([], []) else none
  | '\\' :: c :: rest =>
    if Text.isAsciiPunctuation c then
      (bareDestination? nested rest).map fun (dest, after) => ('\\' :: c :: dest, after)
    else
      (bareDestination? nested (c :: rest)).map fun (dest, after) => ('\\' :: dest, after)
  | c :: rest =>
    if c.toNat ≤ 0x20 then (if nested = 0 then some ([], c :: rest) else none)
    else if c == '(' then
      if maxNesting < nested then none
      else (bareDestination? (nested + 1) rest).map fun (dest, after) => (c :: dest, after)
    else if c == ')' then
      if nested = 0 then some ([], c :: rest)
      else (bareDestination? (nested - 1) rest).map fun (dest, after) => (c :: dest, after)
    else (bareDestination? nested rest).map fun (dest, after) => (c :: dest, after)

/-- The destination that a text begins with, as it is written, and what follows it. -/
def destination? (s : List Char) : Option (List Char × List Char) :=
  match s with
  | '<' :: rest => pointyDestination? rest
  | _ => bareDestination? 0 s

/-- The character that closes a title opened by another. -/
def titleClose? (c : Char) : Option Char :=
  if c == '\x22' || c == '\x27' then some c else if c == '(' then some ')' else none

/-- The rest of a title in a paragraph up to `close`. Lines are joined without their indentation. -/
def inlineTitleFrom (opened close : Char) : Nat → List Char → Option (List Char × List Char)
  | _, [] => none
  | skip + 1, _ :: rest => inlineTitleFrom opened close skip rest
  | 0, c :: rest =>
    if c == close then some ([], rest)
    else if c == opened then none
    else if c == '\n' then
      let indent := (rest.takeWhile fun x => x == ' ' || x == '\t').length
      (inlineTitleFrom opened close indent rest).map fun (t, after) => ('\n' :: t, after)
    else if c == '&' then
      match Html.entityAt? (c :: rest) with
      | some (chars, after) =>
        (inlineTitleFrom opened close (rest.length - after.length) rest).map
          fun (t, after) => (chars ++ t, after)
      | none => (inlineTitleFrom opened close 0 rest).map fun (t, after) => (c :: t, after)
    else if c == '\\' && rest.head?.any Text.isAsciiPunctuation then
      (inlineTitleFrom opened close 1 rest).map fun (t, after) => (rest.take 1 ++ t, after)
    else (inlineTitleFrom opened close 0 rest).map fun (t, after) => (c :: t, after)

/-- The title that a text begins with, resolved, and what follows it. -/
def inlineTitle? (s : List Char) : Option (List Char × List Char) :=
  match s with
  | c :: rest => (titleClose? c).bind fun close => inlineTitleFrom c close 0 rest
  | [] => none

/-- Skips blanks with at most one line end among them. -/
def skipSeparator (s : List Char) : List Char :=
  let t := s.dropWhile isBlankChar
  ((lineEnd? t).getD t).dropWhile isBlankChar

/-- Destination and title of a link, in parentheses, and what follows them. -/
def inlineTarget? (s : List Char) : Option (List Char × List Char × List Char) :=
  match s with
  | '(' :: rest => do
    let (dest, s) ← destination? (skipSeparator rest)
    let s := skipSeparator s
    let (title, s) := match inlineTitle? s with
      | some (title, after) => (title, skipSeparator after)
      | none => ([], s)
    match s with
    | ')' :: after => some (unescape dest, title, after)
    | _ => none
  | _ => none

/-! ## Labels -/

/-- The greatest length of a label. -/
def maxLabelLength : Nat := 999

/-- The text up to a closing bracket, without brackets in it, and what follows; `nextLine?` finds the
text of the line after a line end, if the label goes on there. -/
def labelFrom? (nextLine? : List Char → Option (List Char)) :
    Nat → List Char → Option (List Char × List Char)
  | 0, _ => none
  | _, [] => none
  | fuel + 1, c :: rest =>
    if c == '[' then none
    else if c == ']' then some ([], rest)
    else if c == '\\' then
      match rest with
      | d :: more => (labelFrom? nextLine? fuel more).map fun (t, after) => (c :: d :: t, after)
      | [] => none
    else if c == '\n' || c == '\r' then do
      let line ← (lineEnd? (c :: rest)).bind nextLine?
      let (t, after) ← labelFrom? nextLine? fuel line
      some ('\n' :: t, after)
    else (labelFrom? nextLine? fuel rest).map fun (t, after) => (c :: t, after)

/-- The label that a text, after an opening bracket, begins with. A label is not blank. -/
def labelAt? (nextLine? : List Char → Option (List Char)) (s : List Char) :
    Option (List Char × List Char) :=
  (labelFrom? nextLine? (s.length + 1) s).filter fun (label, _) =>
    !label.all isSpaceChar && label.length ≤ maxLabelLength

/-- What labels of one link share: the words, separated by single spaces, with case folded. -/
def labelKey (label : List Char) : List Char :=
  Text.foldCase ([' '].intercalate ((label.splitOnP isSpaceChar).filter fun w => !w.isEmpty))

/-- A link reference definition. -/
structure Definition where
  key : List Char
  dest : List Char
  title : List Char

/-- The first definition for a label. -/
def lookup? (definitions : List Definition) (label : List Char) : Option Definition :=
  let key := labelKey label
  definitions.find? fun d => d.key == key

end DocPress.Markdown
