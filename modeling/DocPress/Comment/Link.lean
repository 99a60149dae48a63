import DocPress.Text.White
import DocPress.Text.WordChar

/-!
# Links in plain comments

* `urlAt?` — the URL that begins at a place of a line.
* `Span`, `spans` — a line cut into plain text and URLs.

Specification: section 10.3, URLs inside paragraphs of the first markup engine.
-/

namespace DocPress.Comment

/-- The schemes of linked URLs, each with the mark after it. -/
def urlStarts : List (List Char) :=
  ["http://".toList, "https://".toList, "ftp://".toList, "file://".toList]

/-- Whether a character may stand in a URL. -/
def isUrlChar (c : Char) : Bool :=
  !Text.isWhite c && !"<>\"'\x60".toList.contains c

/-- Whether a character at the end of a URL belongs to the sentence around it. -/
def isUrlTrailer (c : Char) : Bool := ".,:;?!)".toList.contains c

/-- The URL at the beginning of a text, sentence punctuation at its end included. -/
def urlAt? (s : List Char) : Option (List Char) :=
  urlStarts.findSome? fun start =>
    (start.isPrefixOf? s).bind fun rest =>
      match rest.takeWhile isUrlChar with
      | [] => none
      | body => some (start ++ body)

/-- A stretch of a line. -/
inductive Span where
  | plain (text : List Char)
  | url (text : List Char)
  deriving DecidableEq, Repr

/-- The stretches of a line whose text since the last URL is `plain`, the last character first;
`before` is the character before the place reached. -/
def spansFrom (before : Option Char) (plain : List Char) (s : List Char) : List Span :=
  match s with
  | [] => [.plain plain.reverse]
  | c :: rest =>
    let found := if Text.isWordBoundary before (some c) then urlAt? (c :: rest) else none
    match found with
    | none => spansFrom (some c) (c :: plain) rest
    | some whole =>
      let url := Text.dropEndWhile isUrlTrailer whole
      let trailer := whole.drop url.length
      .plain plain.reverse :: .url url ::
        spansFrom whole.getLast? trailer.reverse (rest.drop (whole.length - 1))
termination_by s.length
decreasing_by
  · simp
  · simp only [List.length_drop, List.length_cons]; omega

/-- The stretches of a line. -/
def spans (line : List Char) : List Span := spansFrom none [] line

end DocPress.Comment
