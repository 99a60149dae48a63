import DocPress.Number.Binary64
import DocPress.Time.Calendar
import DocPress.Toml.Value

/-!
# Numbers, dates and truth values of TOML

* `digits?` — digits with single underscores between them.
* `integer?`, `isFloat`, `isMoment` — the forms of a scalar.
* `scalar?` — the value of a word; `scalarWord` — the word that a text begins with.
-/

namespace DocPress.Toml

/-! ## Numbers -/

/-- The value of a digit in a base. -/
def digitIn? (base : Nat) (c : Char) : Option Nat :=
  let value :=
    if c.isDigit then some (c.toNat - '0'.toNat)
    else if 'a' ≤ c ∧ c ≤ 'z' then some (c.toNat - 'a'.toNat + 10)
    else if 'A' ≤ c ∧ c ≤ 'Z' then some (c.toNat - 'A'.toNat + 10)
    else none
  value.filter (· < base)

/-- The digits of a number in which single underscores may stand between digits. -/
def digits? (base : Nat) : List Char → Option (List Nat)
  | [] => none
  | [c] => (digitIn? base c).map fun d => [d]
  | c :: '_' :: rest => do
    let d ← digitIn? base c
    let more ← digits? base rest
    some (d :: more)
  | c :: rest => do
    let d ← digitIn? base c
    let more ← digits? base rest
    some (d :: more)

/-- The value of digits. -/
def digitsValue (base : Nat) (digits : List Nat) : Nat :=
  digits.foldl (fun value d => base * value + d) 0

/-- The sign of a number, and what follows it. -/
def signed : List Char → Int × List Char
  | '-' :: rest => (-1, rest)
  | '+' :: rest => (1, rest)
  | s => (1, s)

/-- The digits of a decimal number, which has no zero in front of others. -/
def decimal? (s : List Char) : Option (List Nat) :=
  match digits? 10 s with
  | some (0 :: _ :: _) => none
  | digits => digits

/-- The integers that fit in 128 bits, signed or not. -/
def isRepresentable (n : Int) : Bool :=
  -0x80000000000000000000000000000000 ≤ n && n < 0x100000000000000000000000000000000

/-- An integer: a decimal with or without a sign, or digits of another base without one. -/
def integer? (word : List Char) : Option Int :=
  let value : Option Int := match word with
    | '0' :: 'x' :: rest => (digits? 16 rest).map fun ds => (digitsValue 16 ds : Int)
    | '0' :: 'o' :: rest => (digits? 8 rest).map fun ds => (digitsValue 8 ds : Int)
    | '0' :: 'b' :: rest => (digits? 2 rest).map fun ds => (digitsValue 2 ds : Int)
    | _ =>
      let (sign, rest) := signed word
      (decimal? rest).map fun ds => sign * (digitsValue 10 ds : Int)
  value.filter isRepresentable

/-- The exponent of a number, without its letter. -/
def exponent? (s : List Char) : Option Int :=
  let (sign, rest) := signed s
  (digits? 10 rest).map fun ds => sign * (digitsValue 10 ds : Int)

/-- Whether digits and an exponent make a finite number. -/
def isFinite (digits : List Nat) (places : Nat) (exponent : Int) : Bool :=
  let value := digitsValue 10 digits
  let power := exponent - places
  value == 0 || power < -(digits.length + 400 : Int) ||
    (power ≤ 400 && (Number.ofDecimal? false value power).isSome)

/-- Whether a word is a floating-point number: a fraction, an exponent or both. -/
def isFloat (word : List Char) : Bool :=
  let (_, s) := signed word
  if s = "inf".toList ∨ s = "nan".toList then true
  else
    let (mantissa, exponent) := s.span fun c => c != 'e' && c != 'E'
    let (whole, fraction) := mantissa.span (· != '.')
    let places := match fraction with
      | [] => some []
      | _ :: digits => digits? 10 digits
    let power := match exponent with
      | [] => some 0
      | _ :: digits => exponent? digits
    match decimal? whole, places, power with
    | some ws, some fs, some e =>
      (!fraction.isEmpty || !exponent.isEmpty) && isFinite (ws ++ fs) fs.length e
    | _, _, _ => false

/-! ## Dates and times -/

/-- The number that a count of digits gives, and what follows them. -/
def fixed? (count : Nat) (s : List Char) : Option (Nat × List Char) :=
  let digits := s.take count
  if digits.length = count ∧ digits.all Char.isDigit then
    some (digitsValue 10 (digits.map fun c => c.toNat - '0'.toNat), s.drop count)
  else none

/-- What follows a character. -/
def after? (c : Char) : List Char → Option (List Char)
  | [] => none
  | x :: rest => if x = c then some rest else none

/-- What follows a date that the calendar has. -/
def date? (s : List Char) : Option (List Char) := do
  let (year, s) ← fixed? 4 s
  let (month, s) ← fixed? 2 (← after? '-' s)
  let (day, s) ← fixed? 2 (← after? '-' s)
  if Time.Date.isValid ⟨year, month, day⟩ then some s else none

/-- What follows the seconds of a time, which may be left out or have a fraction. -/
def seconds? (s : List Char) : Option (List Char) :=
  match s with
  | ':' :: rest => do
    let (second, s) ← fixed? 2 rest
    if 60 < second then none
    else
      match s with
      | '.' :: fraction =>
        let digits := fraction.takeWhile Char.isDigit
        if digits.isEmpty then none else some (fraction.drop digits.length)
      | _ => some s
  | _ => some s

/-- What follows a time of the day. -/
def time? (s : List Char) : Option (List Char) := do
  let (hour, s) ← fixed? 2 s
  let (minute, s) ← fixed? 2 (← after? ':' s)
  if hour ≤ 23 ∧ minute ≤ 59 then seconds? s else none

/-- Whether a text is an offset from universal time, or nothing. -/
def isOffset (s : List Char) : Bool :=
  match s with
  | [] => true
  | c :: rest =>
    if c = 'Z' ∨ c = 'z' then rest.isEmpty
    else if c = '+' ∨ c = '-' then
      match fixed? 2 rest with
      | some (hour, ':' :: more) =>
        match fixed? 2 more with
        | some (minute, []) => hour ≤ 23 && minute ≤ 59
        | _ => false
      | _ => false
    else false

/-- Whether a word is a date, a time, or both. -/
def isMoment (word : List Char) : Bool :=
  match date? word with
  | some [] => true
  | some (c :: rest) =>
    (c == 'T' || c == 't' || c == ' ') && (match time? rest with
      | some offset => isOffset offset
      | none => false)
  | none => time? word == some []

/-! ## Scalars -/

/-- Whether a character may stand in a scalar without quotes. -/
def isScalarChar (c : Char) : Bool :=
  c.isAlphanum || c == '_' || c == '+' || c == '-' || c == '.' || c == ':'

/-- The word that a text begins with. A date goes on after one space if a digit follows. -/
def scalarWord (s : List Char) : List Char :=
  let word := s.takeWhile isScalarChar
  match date? word, s.drop word.length with
  | some [], ' ' :: c :: rest =>
    if c.isDigit then word ++ ' ' :: (c :: rest).takeWhile isScalarChar else word
  | _, _ => word

/-- The value of a word. -/
def scalar? (word : List Char) : Option Value :=
  if word = "true".toList then some (.boolean true)
  else if word = "false".toList then some (.boolean false)
  else
    match integer? word with
    | some n => some (.integer n)
    | none => if isFloat word || isMoment word then some .other else none

end DocPress.Toml
