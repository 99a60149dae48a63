import DocPress.Number.Binary64
import Mathlib.Algebra.Order.Field.Power
import Mathlib.Data.Rat.Cast.Order
import Mathlib.Tactic.Linarith
import Mathlib.Tactic.NormNum
import Mathlib.Tactic.Ring

/-!
# Values of floating point

A number of the format is the only one with its value, so numbers can be compared by sign, mantissa and
exponent.

* `Magnitude.value`, `Binary64.value` — the rational number that is meant.
* `Magnitude.Canonical` — a mantissa of 53 bits whose first bit is set, unless the exponent is the
  least.

Principal results: `Canonical.eq_of_value_eq` — one magnitude for each value; `equal_eq_true_iff` —
numbers are equal exactly if their values are; `canonical_of_magnitude?` — rounding gives a number of
the format; `canonical_of_ofStages?` — so does reading in stages.
-/

namespace DocPress.Number

/-- The number that a magnitude is. -/
def Magnitude.value (x : Magnitude) : ℚ := x.mantissa * 2 ^ x.exponent

/-- The number that a value is. -/
def Binary64.value (x : Binary64) : ℚ :=
  if x.negative then -x.magnitude.value else x.magnitude.value

/-- A magnitude of the format: 53 bits and an exponent within its bounds. The first bit is set, unless
the exponent is the least. -/
structure Magnitude.Canonical (x : Magnitude) : Prop where
  mantissa_lt : x.mantissa < 0x20000000000000
  least_le : leastExponent ≤ x.exponent
  le_greatest : x.exponent ≤ greatestExponent
  leading : x.exponent = leastExponent ∨ 0x10000000000000 ≤ x.mantissa

/-! ## One magnitude for each value -/

/-- The greater exponent makes the smaller mantissa. -/
theorem mantissa_eq_of_value_eq {x y : Magnitude} {k : Nat} (hk : y.exponent = x.exponent + k)
    (h : x.value = y.value) : x.mantissa = y.mantissa * 2 ^ k := by
  have hpos : (0 : ℚ) < 2 ^ x.exponent := by positivity
  have hscaled : (x.mantissa : ℚ) * 2 ^ x.exponent = y.mantissa * 2 ^ k * 2 ^ x.exponent := by
    calc (x.mantissa : ℚ) * 2 ^ x.exponent
        = y.mantissa * 2 ^ y.exponent := h
      _ = y.mantissa * 2 ^ k * 2 ^ x.exponent := by
        rw [hk, zpow_add₀ two_ne_zero, zpow_natCast]
        ring
  exact_mod_cast mul_right_cancel₀ hpos.ne' hscaled

theorem Magnitude.Canonical.exponent_eq {x y : Magnitude} (hx : x.Canonical) (hy : y.Canonical)
    (hle : x.exponent ≤ y.exponent) (h : x.value = y.value) : x.exponent = y.exponent := by
  obtain ⟨k, hk⟩ := Int.eq_ofNat_of_zero_le (Int.sub_nonneg_of_le hle)
  have hk : y.exponent = x.exponent + k := by omega
  have hmantissa := mantissa_eq_of_value_eq hk h
  cases k with
  | zero => omega
  | succ k =>
    -- the mantissa with the smaller exponent would have more than 53 bits
    have hleast := hx.least_le
    have hfirst : 0x10000000000000 ≤ y.mantissa := by
      rcases hy.leading with heq | hfirst
      · omega
      · exact hfirst
    have hdouble : y.mantissa * 2 ≤ x.mantissa := by
      rw [hmantissa, Nat.pow_succ', ← Nat.mul_assoc]
      exact Nat.le_mul_of_pos_right _ (Nat.two_pow_pos k)
    have hlt := hx.mantissa_lt
    omega

/-- **One magnitude for each value.** -/
theorem Magnitude.Canonical.eq_of_value_eq {x y : Magnitude} (hx : x.Canonical) (hy : y.Canonical)
    (h : x.value = y.value) : x = y := by
  have hexponent : x.exponent = y.exponent := by
    rcases Int.le_total x.exponent y.exponent with hle | hle
    · exact hx.exponent_eq hy hle h
    · exact (hy.exponent_eq hx hle h.symm).symm
  have hmantissa : x.mantissa = y.mantissa := by
    have hk : y.exponent = x.exponent + (0 : Nat) := by omega
    simpa using mantissa_eq_of_value_eq hk h
  cases x
  cases y
  simp_all

theorem Magnitude.value_nonneg (x : Magnitude) : 0 ≤ x.value := by
  unfold Magnitude.value
  positivity

theorem Magnitude.value_eq_zero_iff (x : Magnitude) : x.value = 0 ↔ x.mantissa = 0 := by
  have hpos : (2 : ℚ) ^ x.exponent ≠ 0 := by positivity
  simp [Magnitude.value, hpos]

/-- **Numbers are equal exactly if their values are**; the two zeros are. -/
theorem Binary64.equal_eq_true_iff {x y : Binary64} (hx : x.magnitude.Canonical)
    (hy : y.magnitude.Canonical) : x.equal y = true ↔ x.value = y.value := by
  obtain ⟨sx, mx⟩ := x
  obtain ⟨sy, my⟩ := y
  have hinj : mx = my ↔ mx.value = my.value := ⟨fun h => by rw [h], hx.eq_of_value_eq hy⟩
  have hequal : (Binary64.mk sx mx).equal ⟨sy, my⟩ = true ↔
      (mx.value = 0 ∧ my.value = 0) ∨ sx = sy ∧ mx.value = my.value := by
    simp [Binary64.equal, Binary64.isZero, Magnitude.value_eq_zero_iff, hinj]
  have hmx := mx.value_nonneg
  have hmy := my.value_nonneg
  rw [hequal]
  simp only [Binary64.value]
  by_cases hsign : sx = sy
  · subst hsign
    constructor
    · rintro (⟨hzero, hzero'⟩ | ⟨-, heq⟩)
      · rw [hzero, hzero']
      · rw [heq]
    · intro heq
      refine .inr ⟨rfl, ?_⟩
      cases sx <;> simpa using heq
  · -- numbers of different signs have the same value only if both are zero
    constructor
    · rintro (⟨hzero, hzero'⟩ | ⟨hsame, -⟩)
      · simp [hzero, hzero']
      · exact absurd hsame hsign
    · intro heq
      refine .inl ?_
      cases sx <;> cases sy <;> simp only [if_true, if_false, Bool.false_eq_true] at heq
      · exact absurd rfl hsign
      · exact ⟨by linarith, by linarith⟩
      · exact ⟨by linarith, by linarith⟩
      · exact absurd rfl hsign

/-! ## Rounding -/

theorem scaleDown_pos {base den : Nat} (hbase : 0 < base) (hden : 0 < den) (num : Nat) (power : Int) :
    0 < (scaleDown base num den power).2 := by
  unfold scaleDown
  split
  · exact Nat.mul_pos hden (Nat.pow_pos hbase)
  · exact hden

theorem scaleDown_div (base num den : Nat) (power : Int) :
    ((scaleDown base num den power).1 : ℚ) / (scaleDown base num den power).2 =
      num / den / base ^ power := by
  unfold scaleDown
  split
  · rename_i hpos
    obtain ⟨n, rfl⟩ := Int.eq_ofNat_of_zero_le hpos
    simp [div_div]
  · rename_i hneg
    obtain ⟨n, hn⟩ := Int.eq_ofNat_of_zero_le (by omega : 0 ≤ -power)
    obtain rfl : power = -(n : Int) := by omega
    simp
    ring

section
variable {base num den : Nat} (hbase : 0 < base) (hden : 0 < den)
include hbase hden

/-- Multiples of the new denominator are below the new numerator as multiples of the power are below
the fraction. -/
theorem mul_le_scaleDown_iff (k : Nat) (power : Int) :
    k * (scaleDown base num den power).2 ≤ (scaleDown base num den power).1 ↔
      (k : ℚ) * base ^ power ≤ num / den := by
  have hden' : (0 : ℚ) < (scaleDown base num den power).2 := by
    exact_mod_cast scaleDown_pos hbase hden num power
  have hpow : (0 : ℚ) < (base : ℚ) ^ power := by positivity
  rw [← le_div_iff₀ hpow, ← scaleDown_div, le_div_iff₀ hden']
  exact_mod_cast Iff.rfl

theorem scaleDown_le_mul_iff (k : Nat) (power : Int) :
    (scaleDown base num den power).1 ≤ k * (scaleDown base num den power).2 ↔
      (num : ℚ) / den ≤ k * base ^ power := by
  have hden' : (0 : ℚ) < (scaleDown base num den power).2 := by
    exact_mod_cast scaleDown_pos hbase hden num power
  have hpow : (0 : ℚ) < (base : ℚ) ^ power := by positivity
  rw [← div_le_iff₀ hpow, ← scaleDown_div, div_le_iff₀ hden']
  exact_mod_cast Iff.rfl

end

theorem roundDiv_le {num den k : Nat} (hden : 0 < den) (h : num ≤ k * den) : roundDiv num den ≤ k := by
  rcases Nat.lt_or_eq_of_le h with hlt | rfl
  · have hquotient : num / den < k := (Nat.div_lt_iff_lt_mul hden).mpr hlt
    unfold roundDiv
    simp only
    split <;> omega
  · -- a whole quotient is not rounded
    have hne : den ≠ 0 := Nat.ne_of_gt hden
    simp [roundDiv, Nat.mul_div_cancel _ hden, hne]

theorem le_roundDiv {num den k : Nat} (hden : 0 < den) (h : k * den ≤ num) : k ≤ roundDiv num den := by
  have hquotient : k ≤ num / den := (Nat.le_div_iff_mul_le hden).mpr h
  unfold roundDiv
  simp only
  split <;> omega

/-- A fraction lies between the powers of two that the lengths of its parts give. -/
theorem log2_bounds {num den : Nat} (hnum : num ≠ 0) (hden : 0 < den) :
    (2 : ℚ) ^ ((num.log2 : Int) - den.log2 - 1) ≤ num / den ∧
      (num : ℚ) / den < 2 ^ ((num.log2 : Int) - den.log2 + 1) := by
  have hnumLow : (2 : ℚ) ^ num.log2 ≤ num := by exact_mod_cast Nat.log2_self_le hnum
  have hnumHigh : (num : ℚ) < 2 ^ (num.log2 + 1) := by exact_mod_cast Nat.lt_log2_self
  have hdenLow : (2 : ℚ) ^ den.log2 ≤ den := by exact_mod_cast Nat.log2_self_le (by omega)
  have hdenHigh : (den : ℚ) < 2 ^ (den.log2 + 1) := by exact_mod_cast Nat.lt_log2_self
  have hden' : (0 : ℚ) < den := by exact_mod_cast hden
  constructor
  · calc (2 : ℚ) ^ ((num.log2 : Int) - den.log2 - 1)
        = 2 ^ num.log2 / 2 ^ (den.log2 + 1) := by
          rw [← zpow_natCast, ← zpow_natCast, ← zpow_sub₀ two_ne_zero]
          congr 1
          push_cast
          ring
      _ ≤ num / den := by gcongr
  · calc (num : ℚ) / den < 2 ^ (num.log2 + 1) / 2 ^ den.log2 := by
          gcongr
      _ = 2 ^ ((num.log2 : Int) - den.log2 + 1) := by
          rw [← zpow_natCast, ← zpow_natCast, ← zpow_sub₀ two_ne_zero]
          congr 1
          push_cast
          ring

/-- The exponent that is chosen for a fraction: the least, or one with which the first of 53 bits is
set. -/
structure Suits (num den : Nat) (exponent : Int) : Prop where
  least_le : leastExponent ≤ exponent
  le : (num : ℚ) / den ≤ 0x20000000000000 * 2 ^ exponent
  leading : exponent = leastExponent ∨ (0x10000000000000 : ℚ) * 2 ^ exponent ≤ num / den

/-- A fraction rounded to a multiple of a power of two; a mantissa that has grown to 54 bits is written
with the next exponent. -/
def roundedAt (num den : Nat) (exponent : Int) : Magnitude :=
  let (n, d) := scaleDown 2 num den exponent
  let mantissa := roundDiv n d
  if mantissa = 0x20000000000000 then ⟨0x10000000000000, exponent + 1⟩ else ⟨mantissa, exponent⟩

/-- With a bound of 54 bits, 53 bits suffice at the exponent itself or at the next one. -/
theorem suits_of_low {num den : Nat} {low : Int} (hden : 0 < den) (hleast : leastExponent ≤ low)
    (hhigh : (num : ℚ) / den < 0x40000000000000 * 2 ^ low)
    (hfirst : low = leastExponent ∨ (0x10000000000000 : ℚ) * 2 ^ low ≤ num / den) :
    Suits num den (if 0x20000000000000 ≤
      (scaleDown 2 num den low).1 / (scaleDown 2 num den low).2 then low + 1 else low) := by
  have hnext : (2 : ℚ) ^ (low + 1) = 2 * 2 ^ low := by
    rw [zpow_add_one₀ two_ne_zero, mul_comm]
  have hgrows : 0x20000000000000 ≤ (scaleDown 2 num den low).1 / (scaleDown 2 num den low).2 ↔
      (0x20000000000000 : ℚ) * 2 ^ low ≤ num / den := by
    rw [Nat.le_div_iff_mul_le (scaleDown_pos Nat.two_pos hden num low),
      mul_le_scaleDown_iff Nat.two_pos hden]
    norm_num
  split
  · rename_i hgrown
    rw [hgrows] at hgrown
    refine ⟨by omega, ?_, .inr ?_⟩ <;> rw [hnext] <;> linarith
  · rename_i hfits
    rw [hgrows] at hfits
    exact ⟨hleast, (not_le.mp hfits).le, hfirst⟩

/-- **Rounding chooses an exponent that suits the fraction.** -/
theorem exists_suits {num den : Nat} (hnum : num ≠ 0) (hden : 0 < den) {x : Magnitude}
    (h : magnitude? num den = some x) :
    ∃ exponent, Suits num den exponent ∧ x = roundedAt num den exponent ∧
      x.exponent ≤ greatestExponent := by
  obtain ⟨hlow, hhigh⟩ := log2_bounds hnum hden
  rw [magnitude?, if_neg hnum] at h
  simp only at h
  generalize hguess : (num.log2 : Int) - den.log2 - 53 = guess at h
  generalize hmax : (if guess < leastExponent then leastExponent else guess) = low at h
  generalize hchoice : (if 0x20000000000000 ≤
    (scaleDown 2 num den low).1 / (scaleDown 2 num den low).2 then low + 1 else low) = exponent at h
  have hx : (if greatestExponent < (roundedAt num den exponent).exponent then none
      else some (roundedAt num den exponent)) = some x := h
  refine ⟨exponent, hchoice ▸ suits_of_low hden ?_ ?_ ?_, ?_⟩
  · rw [← hmax]
    split <;> omega
  · have hle : guess ≤ low := by
      rw [← hmax]
      split <;> omega
    calc (num : ℚ) / den < 2 ^ (guess + 54) := by
          rw [← hguess]
          convert hhigh using 2
          ring
      _ ≤ 2 ^ (54 + low) := zpow_le_zpow_right₀ (by norm_num) (by omega)
      _ = 0x40000000000000 * 2 ^ low := by
          rw [zpow_add₀ two_ne_zero]
          norm_num
  · split at hmax
    · exact .inl hmax.symm
    · subst hmax
      have hbits : (num.log2 : Int) - den.log2 - 1 = 52 + guess := by omega
      rw [hbits, zpow_add₀ two_ne_zero] at hlow
      norm_num at hlow
      exact .inr hlow
  · split at hx
    · cases hx
    · rename_i hexponent
      cases hx
      exact ⟨rfl, Int.not_lt.mp hexponent⟩

/-- What is rounded at an exponent that suits it is a magnitude of the format. -/
theorem Suits.canonical_roundedAt {num den : Nat} {exponent : Int} (h : Suits num den exponent)
    (hden : 0 < den) (hexponent : (roundedAt num den exponent).exponent ≤ greatestExponent) :
    (roundedAt num den exponent).Canonical := by
  have hpos := scaleDown_pos Nat.two_pos hden num exponent
  have hle : roundDiv (scaleDown 2 num den exponent).1 (scaleDown 2 num den exponent).2 ≤
      0x20000000000000 :=
    roundDiv_le hpos ((scaleDown_le_mul_iff Nat.two_pos hden _ _).mpr (by exact_mod_cast h.le))
  have hfirst : exponent = leastExponent ∨ 0x10000000000000 ≤
      roundDiv (scaleDown 2 num den exponent).1 (scaleDown 2 num den exponent).2 :=
    h.leading.imp_right fun hlow =>
      le_roundDiv hpos ((mul_le_scaleDown_iff Nat.two_pos hden _ _).mpr (by exact_mod_cast hlow))
  have hleast := h.least_le
  unfold roundedAt at hexponent ⊢
  simp only at hexponent ⊢
  split at hexponent
  · rename_i hgrown
    rw [if_pos hgrown]
    refine ⟨?_, by simp only; omega, hexponent, .inr (Nat.le_refl _)⟩
    show 0x10000000000000 < 0x20000000000000
    decide
  · rename_i hfits
    rw [if_neg hfits]
    exact ⟨by simp only; omega, hleast, hexponent, hfirst⟩

/-- What is at least one is not rounded to zero. -/
theorem mantissa_pos_roundedAt {num den : Nat} {exponent : Int} (hden : 0 < den)
    (h : (2 : ℚ) ^ exponent ≤ num / den) : 0 < (roundedAt num den exponent).mantissa := by
  have hpos := scaleDown_pos Nat.two_pos hden num exponent
  have hle : 1 ≤ roundDiv (scaleDown 2 num den exponent).1 (scaleDown 2 num den exponent).2 :=
    le_roundDiv hpos ((mul_le_scaleDown_iff Nat.two_pos hden _ _).mpr (by simpa using h))
  unfold roundedAt
  simp only
  split
  · exact Nat.zero_lt_succ _
  · exact hle

/-! ## Results of rounding -/

theorem Magnitude.canonical_zero : Magnitude.zero.Canonical :=
  ⟨by decide, by decide, by decide, .inl rfl⟩

/-- **Rounding gives a magnitude of the format.** -/
theorem canonical_of_magnitude? {num den : Nat} (hden : 0 < den) {x : Magnitude}
    (h : magnitude? num den = some x) : x.Canonical := by
  by_cases hnum : num = 0
  · rw [magnitude?, if_pos hnum] at h
    cases h
    exact Magnitude.canonical_zero
  · obtain ⟨exponent, hsuits, rfl, hexponent⟩ := exists_suits hnum hden h
    exact hsuits.canonical_roundedAt hden hexponent

theorem mantissa_pos_of_magnitude? {num den : Nat} (hden : 0 < den) (hle : den ≤ num) {x : Magnitude}
    (h : magnitude? num den = some x) : 0 < x.mantissa := by
  have hden' : (0 : ℚ) < den := by exact_mod_cast hden
  have hone : (1 : ℚ) ≤ num / den := by
    rw [le_div_iff₀ hden', one_mul]
    exact_mod_cast hle
  obtain ⟨exponent, hsuits, rfl, -⟩ := exists_suits (by omega) hden h
  refine mantissa_pos_roundedAt hden ?_
  rcases hsuits.leading with rfl | hfirst
  · calc (2 : ℚ) ^ leastExponent ≤ 2 ^ (0 : Int) := zpow_le_zpow_right₀ (by norm_num) (by decide)
      _ ≤ num / den := by simpa using hone
  · have hpos : (0 : ℚ) < 2 ^ exponent := by positivity
    linarith

theorem scaleDown_fst_pos {base num : Nat} (hbase : 0 < base) (hnum : 0 < num) (den : Nat)
    (power : Int) : 0 < (scaleDown base num den power).1 := by
  unfold scaleDown
  split
  · exact hnum
  · exact Nat.mul_pos hnum (Nat.pow_pos hbase)

theorem Magnitude.fraction_snd_pos (x : Magnitude) : 0 < x.fraction.2 :=
  scaleDown_pos Nat.two_pos Nat.one_pos _ _

theorem Magnitude.canonical_of_mul? {x y z : Magnitude} (h : x.mul? y = some z) : z.Canonical :=
  canonical_of_magnitude? (Nat.mul_pos x.fraction_snd_pos y.fraction_snd_pos) h

theorem Magnitude.canonical_of_div? {x y z : Magnitude} (hy : 0 < y.mantissa)
    (h : x.div? y = some z) : z.Canonical :=
  canonical_of_magnitude?
    (Nat.mul_pos x.fraction_snd_pos (scaleDown_fst_pos Nat.two_pos hy 1 _)) h

/-- A power of ten that is read is not zero. -/
theorem mantissa_pos_of_decimal? {power : Nat} {x : Magnitude} (h : decimal? 1 power = some x) :
    0 < x.mantissa := by
  have hden := @scaleDown_pos 10 1 (by omega) Nat.one_pos 1 (-(power : Int))
  refine mantissa_pos_of_magnitude? hden ?_ h
  have hle := (@mul_le_scaleDown_iff 10 1 1 (by omega) Nat.one_pos 1 (-(power : Int))).mpr
  rw [one_mul] at hle
  refine hle ?_
  have hpow : ((10 : Nat) : ℚ) ^ (-(power : Int)) ≤ 1 := zpow_le_one_of_nonpos₀ (by norm_num) (by omega)
  simpa using hpow

/-- **One stage after the other gives magnitudes of the format.** -/
theorem canonical_of_shiftStages? {n : Nat} {x y : Magnitude} {power : Int} (hx : x.Canonical)
    (h : shiftStages? n x power = some y) : y.Canonical := by
  induction n generalizing x power with
  | zero =>
    cases h
    exact hx
  | succ n ih =>
    rw [shiftStages?] at h
    split at h
    · obtain ⟨ten, hten, h⟩ := Option.bind_eq_some_iff.mp h
      split at h
      · exact Magnitude.canonical_of_mul? h
      · exact Magnitude.canonical_of_div? (mantissa_pos_of_decimal? hten) h
    · split at h
      · cases h
        exact hx
      · split at h
        · cases h
        · obtain ⟨ten, hten, h⟩ := Option.bind_eq_some_iff.mp h
          obtain ⟨z, hz, h⟩ := Option.bind_eq_some_iff.mp h
          exact ih (Magnitude.canonical_of_div? (mantissa_pos_of_decimal? hten) hz) h

/-- **A decimal that is read in stages is a number of the format.** -/
theorem canonical_of_ofStages? {negative : Bool} {significand : Nat} {power : Int} {x : Binary64}
    (h : ofStages? negative significand power = some x) : x.magnitude.Canonical := by
  obtain ⟨y, hy, h⟩ := Option.bind_eq_some_iff.mp h
  obtain ⟨z, hz, h⟩ := Option.bind_eq_some_iff.mp h
  cases h
  exact canonical_of_shiftStages? (canonical_of_magnitude? Nat.one_pos hy) hz

end DocPress.Number
