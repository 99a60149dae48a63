/-!
# Strings and keys of TOML

* `isBodyChar` — characters that strings and comments may hold.
* `escape?` — a character written after a backslash.
* `basicStep?`, `literalStep?` — one step in a string in double or in single quotes; `string?` — a
  string, on one line or on several.
* `key?` — a key with its dots.
-/

namespace DocPress.Toml

/-- Whether a character may stand in a string or a comment: all but control characters, of which
only the tab may. -/
def isBodyChar (c : Char) : Bool := c == '\t' || (0x20 ≤ c.toNat && c.toNat != 0x7F)

/-- Whether a character is a blank inside a line. -/
def isBlank (c : Char) : Bool := c == ' ' || c == '\t'

/-- What follows a line end; none if the text does not begin with one. -/
def newline? : List Char → Option (List Char)
  | '\n' :: rest => some rest
  | '\r' :: '\n' :: rest => some rest
  | _ => none

/-! ## Escapes -/

/-- The value of a hexadecimal digit. -/
def hexDigit? (c : Char) : Option Nat :=
  if c.isDigit then some (c.toNat - '0'.toNat)
  else if 'a' ≤ c ∧ c ≤ 'f' then some (c.toNat - 'a'.toNat + 10)
  else if 'A' ≤ c ∧ c ≤ 'F' then some (c.toNat - 'A'.toNat + 10)
  else none

/-- The value of hexadecimal digits after a value. -/
def hexValue? (value : Nat) : List Char → Option Nat
  | [] => some value
  | c :: rest => do
    let digit ← hexDigit? c
    hexValue? (16 * value + digit) rest

/-- The character that a number of hexadecimal digits give, and what follows them. -/
def hexChar? (count : Nat) (s : List Char) : Option (Char × List Char) := do
  let digits := s.take count
  let value ← hexValue? 0 digits
  if digits.length = count ∧ value.isValidChar then some (Char.ofNat value, s.drop count) else none

/-- The character that an escape gives after its backslash, and what follows it. -/
def escape? : List Char → Option (Char × List Char)
  | [] => none
  | c :: rest =>
    if c = 'b' then some ('\x08', rest)
    else if c = 't' then some ('\t', rest)
    else if c = 'n' then some ('\n', rest)
    else if c = 'f' then some ('\x0c', rest)
    else if c = 'r' then some ('\r', rest)
    else if c = 'e' then some ('\x1b', rest)
    else if c = '"' then some ('"', rest)
    else if c = '\\' then some ('\\', rest)
    else if c = 'x' then hexChar? 2 rest
    else if c = 'u' then hexChar? 4 rest
    else if c = 'U' then hexChar? 8 rest
    else none

/-! ## Strings -/

/-- How many quotes a text begins with. -/
def quoteRun (quote : Char) (s : List Char) : Nat := (s.takeWhile (· == quote)).length

/-- What follows a backslash at the end of a line: the next character that is neither a blank nor a
line end. -/
def continuation? (s : List Char) : Option (List Char) := do
  let rest ← newline? (s.dropWhile isBlank)
  some (rest.dropWhile fun c => isBlank c || c == '\n' || c == '\r')

/-- What a string adds for a character at its place: nothing if it ends here. -/
inductive Step where
  /-- The string ends with these characters. -/
  | stop (last rest : List Char)
  /-- The string goes on after these characters. -/
  | more (chars rest : List Char)

/-- The end of a string of one line: a quote. -/
def closeLine? (quote : Char) : List Char → Option Step
  | [] => none
  | c :: rest => if c = quote then some (.stop [] rest) else none

/-- The end of a string of several lines: three quotes. Up to two more belong to the string. -/
def closeLines? (quote : Char) (s : List Char) : Option Step :=
  let n := min (quoteRun quote s) 5
  if 3 ≤ n then some (.stop (List.replicate (n - 3) quote) (s.drop n)) else none

/-- A character that stands for itself. Line ends do so in strings of several lines. -/
def plain? (lines : Bool) : List Char → Option Step
  | [] => none
  | c :: rest =>
    if isBodyChar c then some (.more [c] rest)
    else if lines then
      (newline? (c :: rest)).map fun after => .more (if c = '\r' then ['\r', '\n'] else ['\n']) after
    else none

/-- One step through a string in double quotes. -/
def basicStep? (lines : Bool) (s : List Char) : Option Step :=
  match if lines then closeLines? '"' s else closeLine? '"' s with
  | some step => some step
  | none =>
    match s with
    | '\\' :: rest =>
      match if lines then continuation? rest else none with
      | some after => some (.more [] after)
      | none => (escape? rest).map fun (c, after) => .more [c] after
    | _ => plain? lines s

/-- One step through a string in single quotes. -/
def literalStep? (lines : Bool) (s : List Char) : Option Step :=
  match if lines then closeLines? '\x27' s else closeLine? '\x27' s with
  | some step => some step
  | none => plain? lines s

/-- A string read step by step, and what follows it. -/
def steps? (step? : List Char → Option Step) : Nat → List Char → Option (List Char × List Char)
  | 0, _ => none
  | fuel + 1, s => do
    match ← step? s with
    | .stop last rest => some (last, rest)
    | .more chars rest =>
      let (more, after) ← steps? step? fuel rest
      some (chars ++ more, after)

/-- A text without a line end at its start. -/
def dropNewline (s : List Char) : List Char := (newline? s).getD s

/-- A string of several lines after its opening quotes, and what follows it. -/
def lines? (step? : List Char → Option Step) (s : List Char) : Option (String × List Char) :=
  (steps? step? (s.length + 1) (dropNewline s)).map fun (chars, rest) => (String.ofList chars, rest)

/-- A string of one line after its opening quote, and what follows it. -/
def line? (step? : List Char → Option Step) (s : List Char) : Option (String × List Char) :=
  (steps? step? (s.length + 1) s).map fun (chars, rest) => (String.ofList chars, rest)

/-- A string of any kind, and what follows it. -/
def string? : List Char → Option (String × List Char)
  | '"' :: '"' :: '"' :: rest => lines? (basicStep? true) rest
  | '"' :: rest => line? (basicStep? false) rest
  | '\x27' :: '\x27' :: '\x27' :: rest => lines? (literalStep? true) rest
  | '\x27' :: rest => line? (literalStep? false) rest
  | _ => none

/-! ## Keys -/

/-- Whether a character may stand in a key without quotes. -/
def isKeyChar (c : Char) : Bool := c.isAlphanum || c == '_' || c == '-'

/-- One part of a key, and what follows it. -/
def simpleKey? : List Char → Option (String × List Char)
  | '"' :: rest => line? (basicStep? false) rest
  | '\x27' :: rest => line? (literalStep? false) rest
  | s =>
    let name := s.takeWhile isKeyChar
    if name.isEmpty then none else some (String.ofList name, s.drop name.length)

/-- The parts of a key, and what follows it and the blanks after it. -/
def keyWithin? : Nat → List Char → Option (List String × List Char)
  | 0, _ => none
  | fuel + 1, s => do
    let (name, rest) ← simpleKey? (s.dropWhile isBlank)
    match rest.dropWhile isBlank with
    | '.' :: after =>
      let (names, after) ← keyWithin? fuel after
      some (name :: names, after)
    | after => some ([name], after)

/-- The parts of a key, and what follows it and the blanks after it. -/
def key? (s : List Char) : Option (List String × List Char) := keyWithin? (s.length + 1) s

end DocPress.Toml
