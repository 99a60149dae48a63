import DocPress.Text.White
import DocPress.Time.Calendar

/-!
# Instants

An instant is a moment of universal time to the nanosecond. A leap second is the second that follows
second 59 of its minute; it is kept as a nanosecond count of a thousand million or more.

* `Instant` — day, second of the day and nanoseconds.
* `parse?` — reads a timestamp: date, separator, time and a required offset. Blanks may stand
  between the parts and a number may have fewer digits than its width.
* `text` — writes a timestamp in universal time with the shortest of 0, 3, 6 or 9 fraction digits.
* `nanosSince` — the signed time between two instants, counting leap seconds.

Specification: sections 10.2 and 10.4, timestamps.
-/

namespace DocPress.Time

/-- A moment of universal time. -/
structure Instant where
  /-- Day number, counted from the first day of year 1. -/
  day : Int
  /-- Second of the day, below 86400. -/
  second : Nat
  /-- Nanoseconds; a thousand million or more inside a leap second. -/
  nano : Nat
  deriving DecidableEq, Repr

/-- Nanoseconds of a second. -/
def nanosPerSecond : Nat := 1000000000

/-- Seconds of a day. -/
def secondsPerDay : Nat := 86400

/-! ## Reading -/

/-- Reads one to `width` decimal digits. -/
def readNumber? (width : Nat) (s : List Char) : Option (Nat × List Char) :=
  match (s.take width).takeWhile Char.isDigit with
  | [] => none
  | digits => some (Nat.ofDigitChars 10 digits 0, s.drop digits.length)

/-- Reads a number after blanks. -/
def readPadded? (width : Nat) (s : List Char) : Option (Nat × List Char) :=
  readNumber? width (Text.trimStart s)

/-- Reads the expected character after blanks. -/
def readMark? (mark : Char) (s : List Char) : Option (List Char) :=
  match Text.trimStart s with
  | c :: rest => if c = mark then some rest else none
  | [] => none

/-- Reads a year: four digits at most, or any number of digits after a sign. -/
def readYear? (s : List Char) : Option (Int × List Char) :=
  match Text.trimStart s with
  | '-' :: rest => (readNumber? rest.length rest).map fun (n, t) => (-(n : Int), t)
  | '+' :: rest => (readNumber? rest.length rest).map fun (n, t) => ((n : Int), t)
  | rest => (readNumber? 4 rest).map fun (n, t) => ((n : Int), t)

/-- The years that a timestamp may name. -/
def isYearInRange (year : Int) : Bool := decide (-262143 ≤ year) && decide (year ≤ 262142)

/-- Reads a date. -/
def readDate? (s : List Char) : Option (Date × List Char) := do
  let (year, s) ← readYear? s
  let s ← readMark? '-' s
  let (month, s) ← readPadded? 2 s
  let s ← readMark? '-' s
  let (day, s) ← readPadded? 2 s
  let date : Date := ⟨year, month, day⟩
  if isYearInRange year && date.isValid then some (date, s) else none

/-- Reads an optional fraction of a second in nanoseconds; digits past the ninth are dropped. -/
def readFraction? (s : List Char) : Option (Nat × List Char) :=
  match s with
  | '.' :: rest => do
    let digits := (rest.take 9).takeWhile Char.isDigit
    let (n, _) ← readNumber? 9 rest
    some (n * Nat.pow 10 (9 - digits.length), rest.dropWhile Char.isDigit)
  | _ => some (0, s)

/-- Reads a time of day: its second and nanoseconds. Second 60 is the leap second of its minute. -/
def readTime? (s : List Char) : Option ((Nat × Nat) × List Char) := do
  let (hour, s) ← readPadded? 2 s
  let s ← readMark? ':' s
  let (minute, s) ← readPadded? 2 s
  let s ← readMark? ':' s
  let (second, s) ← readPadded? 2 s
  let (nano, s) ← readFraction? s
  if hour < 24 && minute < 60 && second ≤ 60 then
    let start := hour * 3600 + minute * 60
    if second = 60 then some ((start + 59, nano + nanosPerSecond), s)
    else some ((start + second, nano), s)
  else none

/-- Reads hours and minutes of an offset, apart from its sign, in seconds. -/
def readOffsetSize? (s : List Char) : Option (Nat × List Char) :=
  match s with
  | h₁ :: h₂ :: rest =>
    match rest.dropWhile fun c => c == ':' || Text.isWhite c with
    | m₁ :: m₂ :: rest' =>
      if [h₁, h₂, m₁, m₂].all Char.isDigit then
        let hours := Nat.ofDigitChars 10 [h₁, h₂] 0
        let minutes := Nat.ofDigitChars 10 [m₁, m₂] 0
        if hours < 24 && minutes < 60 then some (hours * 3600 + minutes * 60, rest') else none
      else none
    | _ => none
  | _ => none

/-- Reads an offset from universal time in seconds. -/
def readOffset? (s : List Char) : Option (Int × List Char) :=
  match s with
  | 'Z' :: rest => some (0, rest)
  | 'z' :: rest => some (0, rest)
  | '+' :: rest => (readOffsetSize? rest).map fun (n, t) => ((n : Int), t)
  | '-' :: rest => (readOffsetSize? rest).map fun (n, t) => (-(n : Int), t)
  | '\u2212' :: rest => (readOffsetSize? rest).map fun (n, t) => (-(n : Int), t)
  | c₁ :: c₂ :: c₃ :: rest =>
    if [c₁, c₂, c₃].map Char.toUpper = ['U', 'T', 'C'] then some (0, rest) else none
  | _ => none

/-- The instant `offset` seconds before a second of a day. -/
def ofLocal (day : Int) (second nano : Nat) (offset : Int) : Instant :=
  let total := (second : Int) - offset
  ⟨day + total / secondsPerDay, (total % secondsPerDay).toNat, nano⟩

/-- Reads a timestamp. -/
def parseText? (s : List Char) : Option Instant := do
  let (date, s) ← readDate? s
  let s ← match s with
    | 'T' :: rest => some rest
    | 't' :: rest => some rest
    | ' ' :: rest => some rest
    | _ => none
  let ((second, nano), s) ← readTime? s
  let (offset, s) ← readOffset? (Text.trimStart s)
  if Text.isBlank s then some (ofLocal (dayNumber date) second nano offset) else none

/-- Reads a timestamp. -/
def Instant.parse? (s : String) : Option Instant := parseText? s.toList

/-! ## Writing -/

/-- A number with leading zeros up to a width. -/
def padded (width n : Nat) : List Char :=
  let digits := Nat.toDigits 10 n
  List.replicate (width - digits.length) '0' ++ digits

/-- A year: four digits from 0 to 9999, else a sign and at least four digits. -/
def yearText (year : Int) : List Char :=
  if 0 ≤ year ∧ year ≤ 9999 then padded 4 year.toNat
  else (if year < 0 then '-' else '+') :: padded 4 year.natAbs

/-- A fraction of a second with the fewest of 0, 3, 6 or 9 digits that show it. -/
def fractionText (nano : Nat) : List Char :=
  if nano = 0 then []
  else if nano % 1000000 = 0 then '.' :: padded 3 (nano / 1000000)
  else if nano % 1000 = 0 then '.' :: padded 6 (nano / 1000)
  else '.' :: padded 9 nano

/-- An instant as a timestamp in universal time. -/
def Instant.chars (t : Instant) : List Char :=
  let date := dateOfDay t.day
  let second := t.second % 60 + t.nano / nanosPerSecond
  yearText date.year ++ '-' :: padded 2 date.month ++ '-' :: padded 2 date.day ++
    'T' :: padded 2 (t.second / 3600) ++ ':' :: padded 2 (t.second / 60 % 60) ++
    ':' :: padded 2 second ++ fractionText (t.nano % nanosPerSecond) ++ ['Z']

/-- An instant as a timestamp in universal time. -/
def Instant.text (t : Instant) : String := String.ofList t.chars

/-! ## Differences -/

/-- Nanoseconds from `earlier` to `later`; a leap second between them counts. -/
def Instant.nanosSince (later earlier : Instant) : Int :=
  let seconds := (later.day - earlier.day) * secondsPerDay + later.second - earlier.second
  let leap : Int :=
    if earlier.second < later.second then (if nanosPerSecond ≤ earlier.nano then 1 else 0)
    else if later.second < earlier.second then (if nanosPerSecond ≤ later.nano then -1 else 0)
    else 0
  (seconds + leap) * nanosPerSecond + (later.nano - earlier.nano : Int)

end DocPress.Time
