import DocPress.Text.Alphanumeric
import DocPress.Text.Uppercase
import DocPress.Text.White

/-!
# Headings of plain comments

* `isTitle` — whether a trimmed line reads like a heading.
* `title?` — the heading that a line is, if it is one.
* `anchorId` — the anchor of a heading.

Specification: section 10.3, headings of the first markup engine.
-/

namespace DocPress.Comment

/-- Characters that a heading does not hold. -/
def nonTitleChars : List Char := ";:!?+*/=[]\x7b\x7d_^°&§~%#@<\">\\".toList

/-- Each apostrophe is followed by an `s` that ends its word. -/
def apostrophesFit : List Char → Bool
  | [] => true
  | '\x27' :: 's' :: rest => rest.head?.all (· == ' ') && apostrophesFit rest
  | c :: rest => c != '\x27' && apostrophesFit rest

/-- Each period is followed by some character other than a space. -/
def periodsFit : List Char → Bool
  | [] => true
  | c :: rest => (c != '.' || rest.head?.any (· != ' ')) && periodsFit rest

/-- Whether a trimmed line reads like a heading: it begins with an upper-case character, ends with a
letter or number, and holds no punctuation of running text. -/
def isTitle (line : List Char) : Bool :=
  line.head?.any Text.isUppercase && line.getLast?.any Text.isAlphanumeric &&
    line.all (fun c => !nonTitleChars.contains c) && apostrophesFit line && periodsFit line

/-- The heading that a line is, trimmed. -/
def title? (line : List Char) : Option (List Char) :=
  let trimmed := Text.trim line
  if isTitle trimmed then some trimmed else none

/-- The anchor of a heading. -/
def anchorId (title : List Char) : List Char :=
  "hdr-".toList ++ title.map fun c => if Text.isAlphanumeric c then c else '_'

end DocPress.Comment
