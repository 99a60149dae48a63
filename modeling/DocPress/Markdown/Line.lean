/-!
# Lines of Markdown

A line ends with a line feed, a carriage return or both. Verbatim text is cut at line feeds only.

* `lineEnd?` — what follows the line end at which a text begins.
* `blankLine?` — what follows a line of blanks.
* `restOfLine` — the text up to the line end; `verbatimLine` — a line with its line feed.
-/

namespace DocPress.Markdown

/-- What follows the line end at which a text begins; the end of the text is one. -/
def lineEnd? : List Char → Option (List Char)
  | [] => some []
  | '\n' :: rest => some rest
  | '\r' :: '\n' :: rest => some rest
  | '\r' :: rest => some rest
  | _ => none

/-- Whether a character is a blank within a line. -/
def isBlankChar (c : Char) : Bool := c == ' ' || c == '\t' || c == '\x0b' || c == '\x0c'

/-- Whether a character is a blank of ASCII. -/
def isSpaceChar (c : Char) : Bool := isBlankChar c || c == '\n' || c == '\r'

/-- What follows a line of blanks. -/
def blankLine? (s : List Char) : Option (List Char) := lineEnd? (s.dropWhile isBlankChar)

/-- The text up to the line end, and what follows the line. -/
def restOfLine (s : List Char) : List Char × List Char :=
  let (line, rest) := s.span fun c => c != '\n' && c != '\r'
  (line, (lineEnd? rest).getD rest)

/-- A line with its line feed, a carriage return before which is dropped, and what follows it. -/
def verbatimLine (s : List Char) : List Char × List Char :=
  let (line, rest) := s.span fun c => c != '\n'
  match rest with
  | [] => (line, [])
  | _ :: more =>
    let kept := if line.getLast? = some '\r' then line.dropLast else line
    (kept ++ ['\n'], more)

/-- The text without leading spaces and tabs. -/
def dropSpaces (s : List Char) : List Char := s.dropWhile fun c => c == ' ' || c == '\t'

end DocPress.Markdown
