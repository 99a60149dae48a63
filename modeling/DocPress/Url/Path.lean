import DocPress.Text.Utf8

/-!
# URL paths

* `urlPath` — any text as a URL path: bytes other than the unreserved characters and the delimiters
  of path segments are percent-encoded.
* `needsDotSegment` — a relative path whose first segment holds a colon, which gets the segment `.`
  in front so that the colon cannot end a scheme.

Specification: section 4.1 (Path/URL Formatter), helper `url`.
-/

namespace DocPress.Url

/-- Bytes that stand for themselves in a path: ASCII letters and digits and `-_.~$&+,/:;=@`. -/
def isPathByte (b : UInt8) : Bool :=
  (0x30 ≤ b && b ≤ 0x39) || (0x41 ≤ b && b ≤ 0x5A) || (0x61 ≤ b && b ≤ 0x7A) ||
    "-_.~$&+,/:;=@".toList.any fun c => c.toNat == b.toNat

/-- A digit of the upper-case hexadecimal notation. -/
def hexDigit (n : Nat) : Char :=
  if n < 10 then Char.ofNat (0x30 + n) else Char.ofNat (0x37 + n)

/-- The percent-encoding of a byte. -/
def percentByte (b : UInt8) : List Char :=
  ['%', hexDigit (b.toNat / 16), hexDigit (b.toNat % 16)]

/-- A byte of a path as it is written. -/
def pathByte (b : UInt8) : List Char :=
  if isPathByte b then [Char.ofNat b.toNat] else percentByte b

/-- The percent-encoding of a text. -/
def encodePath (s : List Char) : List Char := (Text.Utf8.encode s).flatMap pathByte

/-- Whether the first segment of a path holds a colon. -/
def needsDotSegment (s : List Char) : Bool :=
  (s.takeWhile fun c => c != '/').contains ':'

/-- A text as a URL path. -/
def pathOf (s : List Char) : List Char :=
  if needsDotSegment s then "./".toList ++ encodePath s else encodePath s

/-- A string as a URL path. -/
def urlPath (s : String) : String := String.ofList (pathOf s.toList)

end DocPress.Url
