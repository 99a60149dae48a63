import DocPress.Json.Basic

/-!
# Reading JSON

* `Json.parse?` — a text that is a single JSON value with only blanks around it.

Strings have no raw control characters, an escaped surrogate must be half of a pair to be readable,
and numbers follow the JSON grammar strictly. Nesting is bounded only by the length of the text.
-/

namespace DocPress.Json

/-! ## Strings -/

/-- The value of a hexadecimal digit. -/
def hexValue? (c : Char) : Option Nat :=
  if c.isDigit then some (c.toNat - 0x30)
  else if 'a' ≤ c ∧ c ≤ 'f' then some (c.toNat - 0x57)
  else if 'A' ≤ c ∧ c ≤ 'F' then some (c.toNat - 0x37)
  else none

/-- The value of four hexadecimal digits. -/
def hexUnit? (a b c d : Char) : Option Nat := do
  let a ← hexValue? a
  let b ← hexValue? b
  let c ← hexValue? c
  let d ← hexValue? d
  some (((a * 16 + b) * 16 + c) * 16 + d)

/-- The character meant by a letter after a backslash. -/
def simpleEscape? (c : Char) : Option Nat :=
  if c = '\x22' then some 0x22
  else if c = '\\' then some 0x5C
  else if c = '/' then some 0x2F
  else if c = 'b' then some 0x8
  else if c = 'f' then some 0xC
  else if c = 'n' then some 0xA
  else if c = 'r' then some 0xD
  else if c = 't' then some 0x9
  else none

/-- The code units of a string up to its closing quote, and what follows. -/
def stringUnits? : List Char → Option (List Nat × List Char)
  | [] => none
  | '\\' :: 'u' :: a :: b :: c :: d :: rest => do
    let unit ← hexUnit? a b c d
    let (units, rest') ← stringUnits? rest
    some (unit :: units, rest')
  | '\\' :: c :: rest => do
    let unit ← simpleEscape? c
    let (units, rest') ← stringUnits? rest
    some (unit :: units, rest')
  | c :: rest =>
    if c = '\x22' then some ([], rest)
    else if c = '\\' || c.toNat < 0x20 then none
    else do
      let (units, rest') ← stringUnits? rest
      some (c.toNat :: units, rest')

/-- Whether a code unit is the first half of a surrogate pair. -/
def isHighUnit (u : Nat) : Bool := 0xD800 ≤ u && u ≤ 0xDBFF

/-- Whether a code unit is the second half of a surrogate pair. -/
def isLowUnit (u : Nat) : Bool := 0xDC00 ≤ u && u ≤ 0xDFFF

/-- The characters of code units; none if a surrogate is unpaired. -/
def joinUnits? : List Nat → Option (List Char)
  | [] => some []
  | [u] => if isHighUnit u || isLowUnit u then none else some [Char.ofNat u]
  | u :: v :: rest =>
    if isHighUnit u then
      if isLowUnit v then
        (joinUnits? rest).map (Char.ofNat (0x10000 + (u - 0xD800) * 0x400 + (v - 0xDC00)) :: ·)
      else none
    else if isLowUnit u then none
    else (joinUnits? (v :: rest)).map (Char.ofNat u :: ·)

/-! ## Numbers -/

/-- The greatest unsigned integer of 64 bits. -/
def maxUnsigned : Nat := 0xFFFFFFFFFFFFFFFF

/-- The whole part of a number: a significand of 64 bits and the count of digits that did not fit. -/
def wholePart (digits : List Char) : Nat × Nat :=
  digits.foldl (fun (significand, dropped) d =>
    let next := significand * 10 + (d.toNat - 0x30)
    if dropped = 0 && next ≤ maxUnsigned then (next, 0) else (significand, dropped + 1)) (0, 0)

/-- The significand with the fraction's digits, up to the first that does not fit. -/
def fractionPart (significand : Nat) : List Char → Nat × Nat
  | [] => (significand, 0)
  | d :: rest =>
    let next := significand * 10 + (d.toNat - 0x30)
    if next ≤ maxUnsigned then
      let (total, used) := fractionPart next rest
      (total, used + 1)
    else (significand, 0)

/-- A number as it is written. -/
structure NumberText where
  negative : Bool
  whole : List Char
  fraction : Option (List Char)
  exponent : Option Int

/-- The value of a number as it is written. -/
def NumberText.value (n : NumberText) : Json :=
  let (significand, dropped) := wholePart n.whole
  let float (significand : Nat) (power : Int) : Json :=
    match Number.ofStages? n.negative significand power with
    | some x => .float x
    | none => .unreadable
  match n.fraction, n.exponent with
  | none, none =>
    if dropped ≠ 0 then float significand dropped
    else if !n.negative then .int significand
    else if significand = 0 || 0x8000000000000000 < significand then float significand 0
    else .int (-(significand : Int))
  | none, some e => float significand (dropped + e)
  | some digits, e =>
    let (total, used) := fractionPart significand digits
    float total (dropped - used + e.getD 0)

/-- A number in decimal digits. -/
def digitsValue (digits : List Char) : Nat := Nat.ofDigitChars 10 digits 0

/-- Reads the digits after an exponent mark and its sign. -/
def exponentDigits? (negative : Bool) (s : List Char) : Option (Int × List Char) :=
  match s.span Char.isDigit with
  | ([], _) => none
  | (digits, rest) =>
    let n : Int := digitsValue digits
    some (if negative then -n else n, rest)

/-- Reads an optional exponent. -/
def exponent? (s : List Char) : Option (Option Int × List Char) :=
  match s with
  | c :: rest =>
    if c = 'e' || c = 'E' then
      let signed := match rest with
        | '+' :: more => exponentDigits? false more
        | '-' :: more => exponentDigits? true more
        | _ => exponentDigits? false rest
      signed.map fun (n, t) => (some n, t)
    else some (none, s)
  | [] => some (none, s)

/-- Reads an optional fraction. -/
def fraction? (s : List Char) : Option (Option (List Char) × List Char) :=
  match s with
  | '.' :: rest =>
    match rest.span Char.isDigit with
    | ([], _) => none
    | (digits, more) => some (some digits, more)
  | _ => some (none, s)

/-- Reads a number. -/
def number? (s : List Char) : Option (Json × List Char) := do
  let (negative, s) := match s with
    | '-' :: rest => (true, rest)
    | _ => (false, s)
  let (whole, s) := s.span Char.isDigit
  if whole.isEmpty || (whole.head? == some '0' && 1 < whole.length) then none
  let (fraction, s) ← fraction? s
  let (exponent, s) ← exponent? s
  some (NumberText.value ⟨negative, whole, fraction, exponent⟩, s)

/-! ## Values -/

/-- The text without leading blanks. -/
def skipBlanks (s : List Char) : List Char :=
  s.dropWhile fun c => c == ' ' || c == '\n' || c == '\t' || c == '\r'

/-- Reads a fixed word. -/
def word? (word : String) (value : Json) (s : List Char) : Option (Json × List Char) :=
  (word.toList.isPrefixOf? s).map fun rest => (value, rest)

mutual

/-- Reads a value after blanks. -/
def value? : Nat → List Char → Option (Json × List Char)
  | 0, _ => none
  | fuel + 1, s =>
    match skipBlanks s with
    | [] => none
    | '[' :: rest =>
      match skipBlanks rest with
      | ']' :: more => some (.arr [], more)
      | _ => (items? fuel rest).map fun (xs, t) => (.arr xs, t)
    | c :: rest =>
      if c = '\x7b' then
        match skipBlanks rest with
        | d :: more =>
          if d = '\x7d' then some (.obj [], more)
          else (fields? fuel (d :: more)).map fun (xs, t) => (.obj xs, t)
        | [] => none
      else if c = '\x22' then
        (stringUnits? rest).map fun (units, t) =>
          match joinUnits? units with
          | some chars => (.str (String.ofList chars), t)
          | none => (.unreadable, t)
      else if c = 'n' then word? "null" .null (c :: rest)
      else if c = 't' then word? "true" (.bool true) (c :: rest)
      else if c = 'f' then word? "false" (.bool false) (c :: rest)
      else number? (c :: rest)

/-- Reads the items of an array up to its closing bracket. -/
def items? : Nat → List Char → Option (List Json × List Char)
  | 0, _ => none
  | fuel + 1, s => do
    let (x, s) ← value? fuel s
    match skipBlanks s with
    | ',' :: rest =>
      let (xs, t) ← items? fuel rest
      some (x :: xs, t)
    | ']' :: rest => some ([x], rest)
    | _ => none

/-- Reads the fields of an object up to its closing brace. -/
def fields? : Nat → List Char → Option (List (String × Json) × List Char)
  | 0, _ => none
  | fuel + 1, s =>
    match skipBlanks s with
    | c :: rest =>
      if c ≠ '\x22' then none
      else do
        let (units, s) ← stringUnits? rest
        let name ← joinUnits? units
        match skipBlanks s with
        | ':' :: rest =>
          let (x, s) ← value? fuel rest
          let entry := (String.ofList name, x)
          match skipBlanks s with
          | d :: rest =>
            if d = ',' then
              let (xs, t) ← fields? fuel rest
              some (entry :: xs, t)
            else if d = '\x7d' then some ([entry], rest)
            else none
          | [] => none
        | _ => none
    | [] => none

end

/-- Reads a single value with only blanks around it. -/
def parseText? (s : List Char) : Option Json :=
  match value? (2 * s.length + 2) s with
  | some (x, rest) => if (skipBlanks rest).isEmpty then some x else none
  | none => none

/-- Reads a single value with only blanks around it. -/
def parse? (s : String) : Option Json := parseText? s.toList

end DocPress.Json
