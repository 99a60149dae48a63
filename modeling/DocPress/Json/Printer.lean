import DocPress.Json.Basic
import DocPress.Number.Shortest

/-!
# Writing JSON

* `shortEscapes`, `escapeChar` — the characters of a string that are not written as they are.
* `Json.text` — a value on one line, without blanks.
-/

namespace DocPress.Json

/-- The characters with an escape of their own, and what stands in it behind the backslash. -/
def shortEscapes : List (Char × Char) :=
  [('\x22', '\x22'), ('\\', '\\'), ('\x08', 'b'), ('\x0c', 'f'), ('\n', 'n'), ('\r', 'r'), ('\t', 't')]

/-- One character of a string. Control characters without an escape of their own are written by their
code. -/
def escapeChar (c : Char) : List Char :=
  match shortEscapes.lookup c with
  | some mark => ['\\', mark]
  | none =>
    if c.toNat < 0x20 then
      let digits := Nat.toDigits 16 c.toNat
      "\\u".toList ++ List.replicate (4 - digits.length) '0' ++ digits
    else [c]

/-- A string between quotes. -/
def stringText (s : String) : List Char :=
  '\x22' :: (s.toList.flatMap escapeChar ++ ['\x22'])

mutual

/-- A value as text. -/
def chars : Json → List Char
  | .null => "null".toList
  | .bool true => "true".toList
  | .bool false => "false".toList
  | .int n => (toString n).toList
  | .float x => x.general
  | .str s => stringText s
  | .arr [] => "[]".toList
  | .arr (x :: rest) => '[' :: (x.chars ++ itemChars rest)
  | .obj [] => ['\x7b', '\x7d']
  | .obj ((name, x) :: rest) => '\x7b' :: (stringText name ++ ':' :: (x.chars ++ fieldChars rest))
  | .unreadable => "null".toList

/-- The items after the first, and the closing bracket. -/
def itemChars : List Json → List Char
  | [] => [']']
  | x :: rest => ',' :: (x.chars ++ itemChars rest)

/-- The fields after the first, and the closing brace. -/
def fieldChars : List (String × Json) → List Char
  | [] => ['\x7d']
  | (name, x) :: rest => ',' :: (stringText name ++ ':' :: (x.chars ++ fieldChars rest))

end

/-- A value as text. -/
def text (x : Json) : String := String.ofList x.chars

end DocPress.Json
