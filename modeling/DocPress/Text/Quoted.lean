import DocPress.Text.Printable

/-!
# Quoted text

A text inside a printed list or map stands between double quotes, with quotes, backslashes, the
common controls and characters without a glyph written as escapes.

* `quote` — the quoted form of a text.
-/

namespace DocPress.Text

/-- The escape `\u` with the code point in lower-case hexadecimal between braces. -/
def codePointEscape (c : Char) : List Char :=
  "\\u\x7b".toList ++ Nat.toDigits 16 c.toNat ++ "\x7d".toList

/-- One character of a quoted text. -/
def quoteChar (c : Char) : List Char :=
  if c = '\x00' then "\\0".toList
  else if c = '\t' then "\\t".toList
  else if c = '\r' then "\\r".toList
  else if c = '\n' then "\\n".toList
  else if c = '\\' then "\\\\".toList
  else if c = '\x22' then "\\\"".toList
  else if isPrintable c then [c]
  else codePointEscape c

/-- The text between double quotes, with escapes. -/
def quote (s : List Char) : List Char :=
  '\x22' :: (s.flatMap quoteChar ++ ['\x22'])

end DocPress.Text
