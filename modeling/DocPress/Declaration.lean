import DocPress.Doc.Model
import DocPress.Html.Escape
import DocPress.Text.Utf8
import DocPress.Url.Path

/-!
# Declarations as HTML

A declaration is shown as its source text, in which each annotated range of bytes is a link.

* `Segment` — a stretch of plain text or a link; `segmentsFrom` — the text cut at its annotations.
* `html` — the declaration in HTML.

Annotations are taken in the given order. A range is cut off at the end of the text and at the end
of the range before it; one that does not lie on character boundaries is left out.

Specification: section 4.4 (Declaration Annotator), helper `decl`.
-/

namespace DocPress.Declaration

open DocPress.Doc

/-- A stretch of a declaration. -/
inductive Segment where
  | plain (text : List Char)
  | link (href label : List Char)
  deriving DecidableEq, Repr

/-- The target of an annotation: the page of its package, if it is another one, and the anchor. -/
def target (a : Annotation) : List Char :=
  let page := if a.importPath.isEmpty then [] else Url.pathOf ('/' :: a.importPath.toList)
  page ++ '#' :: Url.pathOf a.name.toList

/-- A number moved into the closed range from `low` to `high`. -/
def clamp (n low high : Nat) : Nat := if n < low then low else if high < n then high else n

/-- The text before and inside an annotation's range, and what follows; `rest` begins at the byte
position `offset`. -/
def cut? (a : Annotation) (offset : Nat) (rest : List Char) :
    Option (List Char × List Char × List Char) := do
  let size := offset + Text.Utf8.byteLength rest
  let start := clamp a.start offset size
  let stop := clamp a.stop start size
  let (before, rest) ← Text.Utf8.splitAtByte? (start - offset) rest
  let (label, rest) ← Text.Utf8.splitAtByte? (stop - start) rest
  some (before, label, rest)

/-- The stretches of the text that begins at byte position `offset`. -/
def segmentsFrom : List Annotation → Nat → List Char → List Segment
  | [], _, rest => [.plain rest]
  | a :: more, offset, rest =>
    match cut? a offset rest with
    | none => segmentsFrom more offset rest
    | some (before, label, rest') =>
      let next := offset + Text.Utf8.byteLength before + Text.Utf8.byteLength label
      .plain before :: .link (target a) label :: segmentsFrom more next rest'

/-- The stretches of a declaration. -/
def segments (d : Decl) : List Segment := segmentsFrom d.annotations 0 d.text.toList

/-- A stretch in HTML. -/
def Segment.html : Segment → List Char
  | .plain text => Html.escapeText text
  | .link href label =>
    "<a href=\"".toList ++ Html.escapeText href ++ "\">".toList ++ Html.escapeText label ++
      "</a>".toList

/-- A declaration in HTML. -/
def html (d : Decl) : String := String.ofList ((segments d).flatMap Segment.html)

end DocPress.Declaration
