import DocPress.Json.Parser
import DocPress.Template.Tree
import DocPress.Text.White

/-!
# Template tokens

A template is text with tags in it: expressions to print between double braces, statements between
braces with percent signs, comments between braces with number signs. A hyphen beside a delimiter
drops the white space of the text on that side.

* `Token` — a token inside a tag; `Chunk` — text or a tag.
* `tagTokens?` — the tokens of a tag up to its end; `chunks?` — a template cut at its tags.
-/

namespace DocPress.Template

/-- A token inside a tag. -/
inductive Token where
  | word (name : String)
  | literal (value : Value)
  | mark (char : Char)

/-- Text or a tag. -/
inductive Chunk where
  | text (content : List Char)
  | output (tokens : List Token)
  | block (tokens : List Token)

/-! ## Tokens -/

/-- The code units of a quoted text up to its closing quote, and what follows. -/
def quotedUnits? (quote : Char) : List Char → Option (List Nat × List Char)
  | [] => none
  | '\\' :: 'u' :: a :: b :: c :: d :: rest => do
    let unit ← Json.hexUnit? a b c d
    let (units, after) ← quotedUnits? quote rest
    some (unit :: units, after)
  | '\\' :: c :: rest => do
    let unit ← if c == '\x27' then some 0x27 else Json.simpleEscape? c
    let (units, after) ← quotedUnits? quote rest
    some (unit :: units, after)
  | c :: rest =>
    if c == quote then some ([], rest)
    else if c == '\\' then none
    else (quotedUnits? quote rest).map fun (units, after) => (c.toNat :: units, after)

/-- A quoted text after its opening quote, and what follows. -/
def quoted? (quote : Char) (s : List Char) : Option (Token × List Char) := do
  let (units, after) ← quotedUnits? quote s
  let chars ← Json.joinUnits? units
  some (.literal (.str (String.ofList chars)), after)

/-- Whether a character belongs to a number's digits. -/
def isDigitOrGap (c : Char) : Bool := c.isDigit || c == '_'

/-- A number that begins with a digit, and what follows it. -/
def number? (s : List Char) : Option (Token × List Char) := do
  let (whole, s) := s.span isDigitOrGap
  let (fraction, s) := match s with
    | '.' :: rest => let (digits, more) := rest.span isDigitOrGap; (some digits, more)
    | _ => (none, s)
  let (exponent, s) ← match s with
    | c :: rest =>
      if c == 'e' || c == 'E' then
        let (negative, digits) := match rest with
          | '-' :: more => (true, more)
          | '+' :: more => (false, more)
          | _ => (false, rest)
        (Json.exponentDigits? negative digits).map fun (n, t) => (some n, t)
      else some (none, s)
    | [] => some (none, s)
  let digits (cs : List Char) : List Char := cs.filter Char.isDigit
  match fraction, exponent with
  | none, none => some (.literal (.int (Json.digitsValue (digits whole))), s)
  | _, _ =>
    let part := digits (fraction.getD [])
    let x ← Number.ofDecimal? false (Json.digitsValue (digits whole ++ part))
      (exponent.getD 0 - part.length)
    some (.literal (.float x), s)

/-- The punctuation of expressions. -/
def isMark (c : Char) : Bool := "()[]\x7b\x7d.,:~=".toList.contains c

/-- The token that a text begins with, and what follows it. -/
def token? (s : List Char) : Option (Token × List Char) :=
  match s with
  | [] => none
  | c :: rest =>
    if c.isAlpha || c == '_' then
      let (name, after) := s.span fun x => x.isAlphanum || x == '_'
      some (.word (String.ofList name), after)
    else if c.isDigit then number? s
    else if c == '\x22' || c == '\x27' then quoted? c rest
    else if isMark c then some (.mark c, rest)
    else none

/-- How many brackets are open after a token. -/
def bracketDepth (depth : Int) : Token → Int
  | .mark c =>
    if "([\x7b".toList.contains c then depth + 1
    else if ")]\x7d".toList.contains c then depth - 1
    else depth
  | _ => depth

/-- What follows the end of a tag, and whether it drops white space. -/
def tagEnd? (stop : List Char) (s : List Char) : Option (Bool × List Char) :=
  match stop.isPrefixOf? s with
  | some rest => some (false, rest)
  | none =>
    match s with
    | '-' :: more => (stop.isPrefixOf? more).map fun rest => (true, rest)
    | '+' :: more => (stop.isPrefixOf? more).map fun rest => (false, rest)
    | _ => none

/-- The tokens of a tag up to its end, whether the end drops white space, and what follows. The end
is not looked for inside brackets. -/
def tagTokens? (stop : List Char) : Nat → Int → List Char → Option (List Token × Bool × List Char)
  | 0, _, _ => none
  | fuel + 1, depth, s =>
    let s := s.dropWhile Char.isWhitespace
    match if depth = 0 then tagEnd? stop s else none with
    | some (trims, rest) => some ([], trims, rest)
    | none => do
      let (token, rest) ← token? s
      let (tokens, trims, after) ← tagTokens? stop fuel (bracketDepth depth token) rest
      some (token :: tokens, trims, after)

/-! ## Chunks -/

/-- The text up to the first tag, the kind of the tag, and what follows its opening delimiter. -/
def untilTag : List Char → List Char × Option (Char × List Char)
  | [] => ([], none)
  | '\x7b' :: c :: rest =>
    if c == '\x7b' || c == '%' || c == '#' then ([], some (c, rest))
    else
      let (text, tag) := untilTag (c :: rest)
      ('\x7b' :: text, tag)
  | c :: rest =>
    let (text, tag) := untilTag rest
    (c :: text, tag)

/-- What follows a comment, and whether its end drops white space. -/
def commentEnd? (before : Char) : List Char → Option (Bool × List Char)
  | [] => none
  | '#' :: '\x7d' :: rest => some (before == '-', rest)
  | c :: rest => commentEnd? c rest

/-- A text as a chunk, unless it is empty. -/
def textChunk (s : List Char) : List Chunk := if s.isEmpty then [] else [.text s]

/-- The chunks of a template from a place on, where white space is dropped if `trims`. -/
def chunksFrom? : Nat → Bool → List Char → Option (List Chunk)
  | 0, _, _ => none
  | fuel + 1, trims, s =>
    let s := if trims then Text.trimStart s else s
    let (text, tag) := untilTag s
    match tag with
    | none => some (textChunk text)
    | some (kind, rest) =>
      let (trimsBefore, rest) := match rest with
        | '-' :: more => (true, more)
        | '+' :: more => (false, more)
        | _ => (false, rest)
      let before := textChunk (if trimsBefore then Text.trimEnd text else text)
      if kind == '#' then do
        let (trims, after) ← commentEnd? ' ' rest
        let more ← chunksFrom? fuel trims after
        some (before ++ more)
      else do
        let stop := if kind == '%' then ['%', '\x7d'] else ['\x7d', '\x7d']
        let (tokens, trims, after) ← tagTokens? stop (rest.length + 1) 0 rest
        let more ← chunksFrom? fuel trims after
        some (before ++ (if kind == '%' then .block tokens else .output tokens) :: more)

/-- A source without one line end at its end. -/
def dropFinalNewline (s : List Char) : List Char :=
  match s.reverse with
  | '\n' :: '\r' :: rest => rest.reverse
  | '\n' :: rest => rest.reverse
  | _ => s

/-- The chunks of a template. -/
def chunks? (source : List Char) : Option (List Chunk) :=
  let s := dropFinalNewline source
  chunksFrom? (s.length + 1) false s

end DocPress.Template
