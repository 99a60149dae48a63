import DocPress.Html.EntityTable

/-!
# Character references

* `namedCharacters` — the table of names; `entityAt?` — the reference that a text begins with: a
  named one, or the number of a code point in decimal or hexadecimal.
-/

namespace DocPress.Html

/-- The value of digits in a base up to sixteen. -/
def numberOfDigits (base : Nat) (digits : List Char) : Nat :=
  digits.foldl (fun n c =>
    base * n + (if c.isDigit then c.toNat - 0x30 else (c.toNat ||| 0x20) - 0x57)) 0

/-- An entry of the table of named characters. -/
def readEntry (entry : List Char) : List Char × List Char :=
  let (name, points) := entry.span fun c => c != '='
  (name, ((points.drop 1).splitOn '+').map fun p => Char.ofNat (numberOfDigits 16 p))

/-- Names and the characters that they stand for. -/
def namedCharacters : List (List Char × List Char) :=
  entityLines.flatMap fun line => (line.toList.splitOn ' ').map readEntry

/-- The character of a code point; the replacement character for zero and for what is no character. -/
def referredChar (n : Nat) : Char :=
  if n = 0 || (0xD800 ≤ n && n ≤ 0xDFFF) || 0x10FFFF < n then '\uFFFD' else Char.ofNat n

/-- Whether a character is a hexadecimal digit. -/
def isHexDigit (c : Char) : Bool :=
  c.isDigit || ('a' ≤ c && c ≤ 'f') || ('A' ≤ c && c ≤ 'F')

/-- A numeric reference of at most `width` digits in a base, up to its semicolon. -/
def numberAt? (base width : Nat) (isDigit : Char → Bool) (s : List Char) :
    Option (List Char × List Char) :=
  let digits := (s.take width).takeWhile isDigit
  match digits, s.drop digits.length with
  | [], _ => none
  | _, ';' :: rest => some ([referredChar (numberOfDigits base digits)], rest)
  | _, _ => none

/-- The reference that a text, which begins with an ampersand, begins with: its characters and what
follows it. -/
def entityAt? : List Char → Option (List Char × List Char)
  | '&' :: '#' :: 'x' :: rest => numberAt? 16 6 isHexDigit rest
  | '&' :: '#' :: 'X' :: rest => numberAt? 16 6 isHexDigit rest
  | '&' :: '#' :: rest => numberAt? 10 7 Char.isDigit rest
  | '&' :: rest =>
    let (name, more) := rest.span Char.isAlphanum
    match more with
    | ';' :: after => (namedCharacters.lookup name).map fun chars => (chars, after)
    | _ => none
  | _ => none

end DocPress.Html
