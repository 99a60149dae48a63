import DocPress.Number.Binary64

/-!
# Shortest decimal text

* `shortest` — the fewest digits whose decimal reads back as the value, nearest to it among those.
* `positional` — a value without exponent, with at least one digit after the point.
* `general` — positional in the middle range, with an exponent outside it.
-/

namespace DocPress.Number

/-- A decimal `d.ddd * 10 ^ power` with its digits as a number of `count` digits. -/
structure Decimal where
  digits : Nat
  count : Nat
  power : Int
  deriving DecidableEq, Repr

/-- The greatest `k` with `10 ^ k ≤ num / den`, near a guess. -/
def decimalPower (num den : Nat) (guess : Int) : Int :=
  let fits (k : Int) : Bool :=
    let (n, d) := scaleDown 10 num den k
    decide (d ≤ n) && decide (n < 10 * d)
  (([guess - 1, guess, guess + 1].find? fits)).getD guess

/-- The nearer neighbour on the grid of `count` digits that lies in the rounding interval. -/
def onGrid? (value low high den : Nat) (closed : Bool) (power : Int) (count : Nat) : Option Nat :=
  let unit := power - ((count : Int) - 1)
  let (v, d) := scaleDown 10 value den unit
  let (l, _) := scaleDown 10 low den unit
  let (h, _) := scaleDown 10 high den unit
  let below := v / d
  let inside (g : Nat) : Bool :=
    if closed then decide (l ≤ g * d) && decide (g * d ≤ h)
    else decide (l < g * d) && decide (g * d < h)
  match inside below, inside (below + 1) with
  | true, true => some (roundDiv v d)
  | true, false => some below
  | false, true => some (below + 1)
  | false, false => none

/-- The first grid, from `count` digits on, with a point in the interval. -/
def firstGrid (value low high den : Nat) (closed : Bool) (power : Int) : Nat → Nat → Decimal
  | 0, count => ⟨0, count, power⟩
  | n + 1, count =>
    match onGrid? value low high den closed power count with
    | some g => if g = Nat.pow 10 count then ⟨1, 1, power + 1⟩ else ⟨g, count, power⟩
    | none => firstGrid value low high den closed power n (count + 1)

/-- The shortest decimal that reads back as a magnitude other than zero. -/
def shortest (x : Magnitude) : Decimal :=
  let m := x.mantissa
  let down := if m = 0x10000000000000 && leastExponent < x.exponent then 1 else 2
  let part (n : Nat) : Nat × Nat := scaleDown 2 n 1 (2 - x.exponent)
  let (value, den) := part (4 * m)
  let (low, _) := part (4 * m - down)
  let (high, _) := part (4 * m + 2)
  let guess := Int.fdiv (((m.log2 : Int) + x.exponent) * 30103) 100000
  let power := decimalPower value den guess
  firstGrid value low high den (m % 2 == 0) power 18 1

/-- The digits of a decimal. -/
def Decimal.text (d : Decimal) : List Char := Nat.toDigits 10 d.digits

/-- Digits with the decimal point after the digit of weight one. -/
def placePoint (digits : List Char) (power : Int) : List Char :=
  if power < 0 then
    "0.".toList ++ List.replicate (-power - 1).toNat '0' ++ digits
  else
    let whole := power.toNat + 1
    let padded := digits ++ List.replicate (whole - digits.length) '0'
    let fraction := padded.drop whole
    padded.take whole ++ '.' :: (if fraction.isEmpty then ['0'] else fraction)

/-- Digits with the point after the first and a power of ten. -/
def placeExponent (digits : List Char) (power : Int) : List Char :=
  let (head, tail) := digits.splitAt 1
  let fraction := if tail.isEmpty then [] else '.' :: tail
  head ++ fraction ++ 'e' :: (toString power).toList

/-- A value without exponent: the shortest digits, and at least one after the point. -/
def Binary64.positional (x : Binary64) : List Char :=
  let sign := if x.negative then ['-'] else []
  if x.isZero then sign ++ "0.0".toList
  else
    let d := shortest x.magnitude
    sign ++ placePoint d.text d.power

/-- A value with the shortest digits, positional from `10 ^ -4` to below `10 ^ 16`. -/
def Binary64.general (x : Binary64) : List Char :=
  if x.isZero then x.positional
  else
    let d := shortest x.magnitude
    if -4 ≤ d.power && d.power < 16 then x.positional
    else (if x.negative then ['-'] else []) ++ placeExponent d.text d.power

end DocPress.Number
