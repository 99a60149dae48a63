/-!
# Inline content

* `Inline` — the content of paragraphs, headings and table cells.
-/

namespace DocPress.Markdown

/-- A piece of inline content. -/
inductive Inline where
  | text (content : List Char)
  | code (content : List Char)
  | html (content : List Char)
  | softBreak
  | hardBreak
  | emphasis (children : List Inline)
  | strong (children : List Inline)
  | strikethrough (children : List Inline)
  /-- A link; `email` if it is an address between angle brackets. -/
  | link (email : Bool) (dest title : List Char) (children : List Inline)
  | image (dest title : List Char) (children : List Inline)

end DocPress.Markdown
