/-!
# Escaping for HTML

* `escapeChar`, `escapeText` — the five characters with a meaning in HTML become entities, and NUL
  becomes the replacement character, so that it cannot end an attribute in a lenient reader.
* `escape` — the same on strings.

Specification: sections 4.4 to 4.6, the escaping of text and of attributes.
-/

namespace DocPress.Html

/-- The HTML form of one character. -/
def escapeChar (c : Char) : List Char :=
  if c = '&' then "&amp;".toList
  else if c = '<' then "&lt;".toList
  else if c = '>' then "&gt;".toList
  else if c = '\x22' then "&quot;".toList
  else if c = '\x27' then "&#x27;".toList
  else if c = '\x00' then ['\uFFFD']
  else [c]

/-- The HTML form of a text. -/
def escapeText (s : List Char) : List Char := s.flatMap escapeChar

/-- The HTML form of a string, safe in element content and in quoted attributes. -/
def escape (s : String) : String := String.ofList (escapeText s.toList)

end DocPress.Html
