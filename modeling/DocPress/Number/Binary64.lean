/-!
# Binary floating point

Numbers with a fraction are IEEE 754 binary64 values, kept exactly as sign, mantissa and exponent.

* `Binary64` — a finite value; `magnitude?` — a fraction rounded to the nearest one, ties to even.
* `mul?`, `div?` — product and quotient of magnitudes, rounded once.
* `ofDecimal?` — the value nearest to a decimal.
* `ofStages?` — a decimal read in stages: significand and power of ten are rounded each for itself,
  and then their product or quotient.
-/

namespace DocPress.Number

/-- A non-negative finite value `mantissa * 2 ^ exponent`. -/
structure Magnitude where
  mantissa : Nat
  exponent : Int
  deriving DecidableEq, Repr

/-- A finite value: sign and magnitude. Zero has two signs. -/
structure Binary64 where
  negative : Bool
  magnitude : Magnitude
  deriving DecidableEq, Repr

/-- The least exponent. -/
def leastExponent : Int := -1074

/-- The greatest exponent. -/
def greatestExponent : Int := 971

/-- The magnitude zero. -/
def Magnitude.zero : Magnitude := ⟨0, leastExponent⟩

/-- The quotient of two numbers, rounded to the nearest, a tie to the even neighbour. -/
def roundDiv (num den : Nat) : Nat :=
  let q := num / den
  let r := num % den
  if den < 2 * r || (den == 2 * r && q % 2 == 1) then q + 1 else q

/-- The fraction `num / den` divided by `base ^ power`, as numerator and denominator. -/
def scaleDown (base num den : Nat) (power : Int) : Nat × Nat :=
  if 0 ≤ power then (num, den * Nat.pow base power.toNat)
  else (num * Nat.pow base (-power).toNat, den)

/-- The magnitude nearest to `num / den`; none if it is too large. -/
def magnitude? (num den : Nat) : Option Magnitude :=
  if num = 0 then some .zero
  else
    let guess : Int := (num.log2 : Int) - den.log2 - 53
    let low := if guess < leastExponent then leastExponent else guess
    let (n, d) := scaleDown 2 num den low
    let exponent := if 0x20000000000000 ≤ n / d then low + 1 else low
    let (n, d) := scaleDown 2 num den exponent
    let mantissa := roundDiv n d
    let rounded : Magnitude :=
      if mantissa = 0x20000000000000 then ⟨0x10000000000000, exponent + 1⟩ else ⟨mantissa, exponent⟩
    if greatestExponent < rounded.exponent then none else some rounded

/-- A magnitude as a fraction. -/
def Magnitude.fraction (x : Magnitude) : Nat × Nat := scaleDown 2 x.mantissa 1 (-x.exponent)

/-- The rounded product of two magnitudes; none if it is too large. -/
def Magnitude.mul? (x y : Magnitude) : Option Magnitude :=
  let (a, b) := x.fraction
  let (c, d) := y.fraction
  magnitude? (a * c) (b * d)

/-- The rounded quotient of two magnitudes; none if it is too large. -/
def Magnitude.div? (x y : Magnitude) : Option Magnitude :=
  let (a, b) := x.fraction
  let (c, d) := y.fraction
  magnitude? (a * d) (b * c)

/-- The magnitude nearest to `significand * 10 ^ power`; none if it is too large. -/
def decimal? (significand : Nat) (power : Int) : Option Magnitude :=
  let (n, d) := scaleDown 10 significand 1 (-power)
  magnitude? n d

/-- The greatest power of ten used in one stage. -/
def stagePower : Nat := 308

/-- A magnitude times a power of ten, in stages of at most `stagePower` each. -/
def shiftStages? : Nat → Magnitude → Int → Option Magnitude
  | 0, x, _ => some x
  | n + 1, x, power =>
    if power.natAbs ≤ stagePower then do
      let ten ← decimal? 1 power.natAbs
      if 0 ≤ power then x.mul? ten else x.div? ten
    else if x.mantissa = 0 then some x
    else if 0 ≤ power then none
    else do
      let ten ← decimal? 1 stagePower
      let y ← x.div? ten
      shiftStages? n y (power + stagePower)

/-- A decimal read in stages; none if it is too large. -/
def ofStages? (negative : Bool) (significand : Nat) (power : Int) : Option Binary64 := do
  let x ← magnitude? significand 1
  let y ← shiftStages? 4 x power
  some ⟨negative, y⟩

/-- The value nearest to a decimal; none if it is too large. -/
def ofDecimal? (negative : Bool) (significand : Nat) (power : Int) : Option Binary64 :=
  (decimal? significand power).map (⟨negative, ·⟩)

/-- Whether a value is zero of either sign. -/
def Binary64.isZero (x : Binary64) : Bool := x.magnitude.mantissa == 0

/-- Numeric equality, in which the two zeros are equal. -/
def Binary64.equal (x y : Binary64) : Bool :=
  (x.isZero && y.isZero) || (x.negative == y.negative && x.magnitude == y.magnitude)

/-- The integer that a value is, if it is one. -/
def Binary64.toInt? (x : Binary64) : Option Int :=
  let (n, d) := x.magnitude.fraction
  if n % d = 0 then some (if x.negative then -((n / d : Nat) : Int) else ((n / d : Nat) : Int))
  else none

end DocPress.Number
