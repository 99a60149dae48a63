import DocPress.Text.Ranges

/-!
# White space

White space is the Unicode property `White_Space`, not only the ASCII blanks.

* `isWhite` — the property.
* `trim`, `trimStart`, `trimEnd` — a text without the white space at its ends.
* `isBlank` — a text of white space only.
* `words` — the maximal runs of other characters, in order.
-/

namespace DocPress.Text

/-- Code points with the property `White_Space`. -/
def whiteRanges : List (Nat × Nat) :=
  [(0x9, 0xD), (0x20, 0x20), (0x85, 0x85), (0xA0, 0xA0), (0x1680, 0x1680), (0x2000, 0x200A),
   (0x2028, 0x2029), (0x202F, 0x202F), (0x205F, 0x205F), (0x3000, 0x3000)]

/-- Whether a character is white space. -/
def isWhite (c : Char) : Bool := inRanges whiteRanges c

/-- The text without its longest ending of characters that satisfy `p`. -/
def dropEndWhile (p : Char → Bool) (s : List Char) : List Char :=
  (s.reverse.dropWhile p).reverse

/-- The text without leading white space. -/
def trimStart (s : List Char) : List Char := s.dropWhile isWhite

/-- The text without trailing white space. -/
def trimEnd (s : List Char) : List Char := dropEndWhile isWhite s

/-- The text without white space at either end. -/
def trim (s : List Char) : List Char := trimEnd (trimStart s)

/-- Whether a text holds nothing but white space. -/
def isBlank (s : List Char) : Bool := s.all isWhite

/-- The words of a text: its maximal runs of characters that are not white space. -/
def words (s : List Char) : List (List Char) :=
  (s.splitOnP isWhite).filter fun w => !w.isEmpty

end DocPress.Text
