import DocPress.Toml.Quoted
import DocPress.Toml.Scalar
import DocPress.Toml.Table

/-!
# Reading TOML

* `value?` — a value; `statement?` — a line with a header, with a key and its value, or neither.
* `parse?` — the entries of a document; none if it is malformed or defines something twice.
-/

namespace DocPress.Toml

/-! ## Values -/

/-- What follows blanks and a comment: a line end, unless something else is on the line. -/
def lineRest (s : List Char) : List Char :=
  match s.dropWhile isBlank with
  | '#' :: rest => rest.dropWhile isBodyChar
  | rest => rest

/-- Whether a line has nothing but a comment. -/
def isComment (s : List Char) : Bool := (s.dropWhile isBlank).head? == some '#'

/-- What follows blanks, comments and line ends. A comment goes to the end of its line. -/
def gap? : Nat → List Char → Option (List Char)
  | 0, _ => none
  | fuel + 1, s =>
    match newline? (lineRest s) with
    | some after => gap? fuel after
    | none => if isComment s then none else some (lineRest s)

/-- What follows a gap. -/
def skipGap? (s : List Char) : Option (List Char) := gap? (s.length + 1) s

mutual

/-- A value, and what follows it. -/
def value? : Nat → List Char → Option (Value × List Char)
  | 0, _ => none
  | fuel + 1, s =>
    match s with
    | '[' :: rest => do
      let (items, after) ← items? fuel (← skipGap? rest)
      some (.array items, after)
    | '\x7b' :: rest => do
      let (entries, after) ← fields? fuel [] (← skipGap? rest)
      some (.table (toEntries entries), after)
    | '"' :: _ => (string? s).map fun (text, after) => (.string text, after)
    | '\x27' :: _ => (string? s).map fun (text, after) => (.string text, after)
    | _ => do
      let word := scalarWord s
      let v ← scalar? word
      some (v, s.drop word.length)

/-- The items of an array up to its closing bracket. -/
def items? : Nat → List Char → Option (List Value × List Char)
  | 0, _ => none
  | fuel + 1, s =>
    match s with
    | ']' :: after => some ([], after)
    | _ => do
      let (v, rest) ← value? fuel s
      match ← skipGap? rest with
      | ']' :: after => some ([v], after)
      | ',' :: rest =>
        let (more, after) ← items? fuel (← skipGap? rest)
        some (v :: more, after)
      | _ => none

/-- The entries of a table in braces, put after others, up to its closing brace. -/
def fields? : Nat → Entries → List Char → Option (Entries × List Char)
  | 0, _, _ => none
  | fuel + 1, entries, s =>
    match s with
    | '\x7d' :: after => some (entries, after)
    | _ => do
      let (names, rest) ← key? s
      let rest ← after? '=' rest
      let (v, rest) ← value? fuel (rest.dropWhile isBlank)
      let name ← names.getLast?
      let entries ← assign names.dropLast name v .header entries
      match ← skipGap? rest with
      | '\x7d' :: after => some (entries, after)
      | ',' :: rest => fields? fuel entries (← skipGap? rest)
      | _ => none

end

/-! ## Documents -/

/-- What a line says. -/
inductive Statement where
  | blank
  | header (names : List String)
  | element (names : List String)
  | entry (names : List String) (value : Value)

/-- What a line says, and what follows that. -/
def statement? (s : List Char) : Option (Statement × List Char) :=
  match s.dropWhile isBlank with
  | '[' :: '[' :: rest => do
    let (names, rest) ← key? rest
    let rest ← after? ']' rest
    let rest ← after? ']' rest
    some (.element names, rest)
  | '[' :: rest => do
    let (names, rest) ← key? rest
    let rest ← after? ']' rest
    some (.header names, rest)
  | [] => some (.blank, [])
  | c :: rest =>
    if c = '#' ∨ c = '\n' ∨ c = '\r' then some (.blank, c :: rest)
    else do
      let (names, after) ← key? (c :: rest)
      let after ← after? '=' after
      let text := after.dropWhile isBlank
      let (v, after) ← value? (2 * text.length + 2) text
      some (.entry names v, after)

/-- A document as far as it is read: the table that is open, and all entries. -/
structure Document where
  current : List String := []
  entries : Entries := []

/-- The document after one more statement. -/
def Document.add? (d : Document) : Statement → Option Document
  | .blank => some d
  | .header names => do
    let name ← names.getLast?
    let entries ← update .path (fun _ inner => openTable name inner) names.dropLast .header d.entries
    some ⟨names, entries⟩
  | .element names => do
    let name ← names.getLast?
    let entries ← update .path (fun _ inner => openElement name inner) names.dropLast .header d.entries
    some ⟨names, entries⟩
  | .entry names v => do
    let name ← names.getLast?
    let entries ← update .path (assign names.dropLast name v) d.current .header d.entries
    some { d with entries := entries }

/-- The document after all lines of a text. -/
def Document.addLines? : Nat → Document → List Char → Option Document
  | 0, _, _ => none
  | fuel + 1, d, s => do
    let (statement, rest) ← statement? s
    let d ← d.add? statement
    match lineRest rest with
    | [] => some d
    | rest => Document.addLines? fuel d (← newline? rest)

/-- The entries of a document. A mark of the byte order in front of it does not count. -/
def parse? (text : String) : Option (List (String × Value)) :=
  let s := match text.toList with
    | '\ufeff' :: rest => rest
    | s => s
  (Document.addLines? (s.length + 1) {} s).map fun d => toEntries d.entries

end DocPress.Toml
